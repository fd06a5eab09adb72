import ShadowLint.Json.Read
import ShadowLint.Scope.Graph

/-!
# Reading scope-graph documents

Each record of a document has a reader for its fields.  Only a variable's name and a
node's kind and scope are required; keys that no field has are skipped.
-/

namespace ShadowLint.Scope

open ShadowLint.Json

/-- Reads a range: an array of its two ends. -/
def decodeRange : Reader TextRange
  | .array ends => do
      let (start, ends) ← nextItem natural32 (.error (tooShort 0 .pair)) ends
      let (stop, ends) ← nextItem natural32 (.error (tooShort 1 .pair)) ends
      lastItem ends
      match TextRange.of? start stop with
      | some range => return range
      | none => .error (.mismatch (.reversedRange start stop))
  | doc => .error (doc.refusal .pair)

/-! ## Variables -/

/-- The fields of a variable that were read so far. -/
structure VariableSlots where
  name : Option String
  identifiers : Option (List TextRange)

/-- Reads a member of a variable. -/
def VariableSlots.step (slots : VariableSlots) (key : String) (value : Doc) :
    Except Problem VariableSlots :=
  match key with
  | "name" => do
      let name ← fill key slots.name string value
      return { slots with name }
  | "identifiers" => do
      let identifiers ← fill key slots.identifiers (list decodeRange) value
      return { slots with identifiers }
  | _ => do
      skip value
      return slots

/-- Reads a variable. -/
def decodeVariable : Reader Variable
  | .object members => do
      let slots ← foldMembers VariableSlots.step ⟨none, none⟩ members
      let name ← required "name" slots.name
      return ⟨name, slots.identifiers.getD []⟩
  | .array fields => do
      let (name, fields) ←
        nextItem string (.error (tooShort 0 (.fields "Variable" 2))) fields
      let (identifiers, fields) ← nextItem (list decodeRange) (.ok []) fields
      lastItem fields
      return ⟨name, identifiers⟩
  | doc => .error (doc.refusal (.record "Variable"))

/-! ## Scopes -/

/-- The fields of a scope that were read so far. -/
structure ScopeSlots where
  parent : Option (Option UInt32)
  vars : Option (List Variable)

/-- Reads a member of a scope. -/
def ScopeSlots.step (slots : ScopeSlots) (key : String) (value : Doc) :
    Except Problem ScopeSlots :=
  match key with
  | "parent" => do
      let parent ← fill key slots.parent (nullable natural32) value
      return { slots with parent }
  | "variables" => do
      let vars ← fill key slots.vars (list decodeVariable) value
      return { slots with vars }
  | _ => do
      skip value
      return slots

/-- Reads a scope. -/
def decodeScope : Reader ScopeEntry
  | .object members => do
      let slots ← foldMembers ScopeSlots.step ⟨none, none⟩ members
      return ⟨slots.parent.getD none, slots.vars.getD []⟩
  | .array fields => do
      let (parent, fields) ← nextItem (nullable natural32) (.ok none) fields
      let (vars, fields) ← nextItem (list decodeVariable) (.ok []) fields
      lastItem fields
      return ⟨parent, vars⟩
  | doc => .error (doc.refusal (.record "ScopeEntry"))

/-! ## Nodes -/

/-- Reads the kind of a node. -/
def decodeKind : Reader NodeKind :=
  variant fun name => .ok (NodeKind.ofName name)

/-- The fields of a node that were read so far. -/
structure NodeSlots where
  kind : Option NodeKind
  scope : Option UInt32
  range : Option (Option TextRange)

/-- Reads a member of a node. -/
def NodeSlots.step (slots : NodeSlots) (key : String) (value : Doc) :
    Except Problem NodeSlots :=
  match key with
  | "kind" => do
      let kind ← fill key slots.kind decodeKind value
      return { slots with kind }
  | "scope" => do
      let scope ← fill key slots.scope natural32 value
      return { slots with scope }
  | "range" => do
      let range ← fill key slots.range (nullable decodeRange) value
      return { slots with range }
  | _ => do
      skip value
      return slots

/-- Reads a node. -/
def decodeNode : Reader NodeEntry
  | .object members => do
      let slots ← foldMembers NodeSlots.step ⟨none, none, none⟩ members
      let kind ← required "kind" slots.kind
      let scope ← required "scope" slots.scope
      return ⟨kind, scope, slots.range.getD none⟩
  | .array fields => do
      let expected := Expected.fields "NodeEntry" 3
      let (kind, fields) ← nextItem decodeKind (.error (tooShort 0 expected)) fields
      let (scope, fields) ← nextItem natural32 (.error (tooShort 1 expected)) fields
      let (range, fields) ← nextItem (nullable decodeRange) (.ok none) fields
      lastItem fields
      return ⟨kind, scope, range⟩
  | doc => .error (doc.refusal (.record "NodeEntry"))

/-! ## Graphs -/

/-- The fields of a graph that were read so far. -/
structure GraphSlots where
  source : Option (Option String)
  scopes : Option (List ScopeEntry)
  nodes : Option (List NodeEntry)

/-- Reads a member of a graph. -/
def GraphSlots.step (slots : GraphSlots) (key : String) (value : Doc) :
    Except Problem GraphSlots :=
  match key with
  | "source" => do
      let source ← fill key slots.source (nullable string) value
      return { slots with source }
  | "scopes" => do
      let scopes ← fill key slots.scopes (list decodeScope) value
      return { slots with scopes }
  | "nodes" => do
      let nodes ← fill key slots.nodes (list decodeNode) value
      return { slots with nodes }
  | _ => do
      skip value
      return slots

/-- Reads a graph. -/
def decodeGraph : Reader ScopeGraph
  | .object members => do
      let slots ← foldMembers GraphSlots.step ⟨none, none, none⟩ members
      return ⟨slots.source.getD none, slots.scopes.getD [], slots.nodes.getD []⟩
  | .array fields => do
      let (source, fields) ← nextItem (nullable string) (.ok none) fields
      let (scopes, fields) ← nextItem (list decodeScope) (.ok []) fields
      let (nodes, fields) ← nextItem (list decodeNode) (.ok []) fields
      lastItem fields
      return ⟨source, scopes, nodes⟩
  | doc => .error (doc.refusal (.record "ScopeGraph"))

/-- Reads the text of a scope-graph document. -/
def ScopeGraph.ofText (text : String) : Except Problem ScopeGraph :=
  read decodeGraph text

end ShadowLint.Scope
