import ShadowLint.Json.Value
import ShadowLint.Scope.Graph

/-!
# Writing scope-graph documents

A graph is written with all fields of its records in their order, and with null for what
is absent; only an absent source is left out.
-/

namespace ShadowLint.Scope

open ShadowLint.Json

/-- A 32-bit number. -/
def encodeNatural32 (n : UInt32) : Value := Value.ofNat n.toNat

/-- What may be absent. -/
def encodeOption {α : Type} (encode : α → Value) : Option α → Value
  | some content => encode content
  | none => .null

/-- A range: the array of its two ends. -/
def encodeRange (range : TextRange) : Value :=
  .array [encodeNatural32 range.start, encodeNatural32 range.stop]

/-- A variable. -/
def encodeVariable (v : Variable) : Value :=
  .object [("name", .string v.name), ("identifiers", .array (v.identifiers.map encodeRange))]

/-- A scope. -/
def encodeScope (entry : ScopeEntry) : Value :=
  .object
    [("parent", encodeOption encodeNatural32 entry.parent),
      ("variables", .array (entry.vars.map encodeVariable))]

/-- A node. -/
def encodeNode (entry : NodeEntry) : Value :=
  .object
    [("kind", .string entry.kind.name), ("scope", encodeNatural32 entry.scope),
      ("range", encodeOption encodeRange entry.range)]

/-- A graph. -/
def encodeGraph (graph : ScopeGraph) : Value :=
  let content :=
    [("scopes", .array (graph.scopes.map encodeScope)),
      ("nodes", .array (graph.nodes.map encodeNode))]
  .object
    (match graph.source with
      | some source => ("source", .string source) :: content
      | none => content)

/-- The text of a scope-graph document, without any white space. -/
def ScopeGraph.text (graph : ScopeGraph) : String := (encodeGraph graph).compactText

end ShadowLint.Scope
