import ShadowLint.Proofs.Json.Reading
import ShadowLint.Scope.Graph.Decode

/-!
# What scope-graph documents stand for

For each record of a document, what a value stands for field by field.  The readers find exactly
that: they fill their slots with what the members of the right names stand for, or take the items
of an array in the order of the fields.
-/

namespace ShadowLint.Scope

open ShadowLint.Json

/-! ## Ranges and kinds -/

/-- A range is an array of its two ends. -/
inductive MeansRange : Meaning TextRange
  | mk {first last : Value} {range : TextRange} : MeansNatural32 first range.start →
      MeansNatural32 last range.stop → MeansRange (.array [first, last]) range

theorem of?_eq_some_iff {start stop : UInt32} {range : TextRange} :
    TextRange.of? start stop = some range ↔ range.start = start ∧ range.stop = stop := by
  obtain ⟨first, last, ordered⟩ := range
  unfold TextRange.of?
  constructor
  · intro made
    split at made
    · cases made
      exact ⟨rfl, rfl⟩
    · cases made
  · rintro ⟨rfl, rfl⟩
    rw [dif_pos ordered]

theorem realizes_range : Realizes decodeRange MeansRange := by
  intro value range
  cases value with
  | array items =>
      rw [Value.doc, decodeRange]
      simp only [nextItem_bind_eq_ok_iff realizes_natural32, lastItem_bind_eq_ok_iff]
      constructor
      · rintro ⟨start, holdsStart, stop, holdsStop, last, made⟩
        -- neither end may be missing, and no third item may follow
        obtain _ | ⟨first, _ | ⟨second, _ | _⟩⟩ := items
        · cases holdsStart with
          | absent none => cases none
        · cases holdsStop with
          | absent none => cases none
        · cases made' : TextRange.of? start stop with
          | none => rw [made'] at made; cases made
          | some found =>
              rw [made'] at made
              cases made
              obtain ⟨rfl, rfl⟩ := of?_eq_some_iff.1 made'
              cases holdsStart with
              | given meansStart =>
                  cases holdsStop with
                  | given meansStop => exact .mk meansStart meansStop
        · cases last
      · rintro ⟨meansStart, meansStop⟩
        refine ⟨_, .given meansStart, _, .given meansStop, rfl, ?_⟩
        rw [of?_eq_some_iff.2 ⟨rfl, rfl⟩]
        rfl
  | null | bool _ | number _ | string _ | object _ =>
      constructor
      · intro read
        cases read
      · intro means
        cases means

/-- Which kind has a name: one that has a name of its own, or the remaining kind for all other
names. -/
inductive KindNamed : String → NodeKind → Prop
  | own {kind : NodeKind} : kind ≠ .other → KindNamed kind.name kind
  | other {name : String} : (∀ kind : NodeKind, kind ≠ .other → kind.name ≠ name) →
      KindNamed name .other

theorem mem_named_iff {kind : NodeKind} : kind ∈ NodeKind.named ↔ kind ≠ .other := by
  cases kind <;> decide

theorem ofName_name (kind : NodeKind) : NodeKind.ofName kind.name = kind := by
  cases kind <;> decide

theorem ofName_eq_iff {name : String} {kind : NodeKind} :
    NodeKind.ofName name = kind ↔ KindNamed name kind := by
  constructor
  · rintro rfl
    unfold NodeKind.ofName
    cases found : NodeKind.named.find? fun kind => kind.name = name with
    | some kind =>
        have same : kind.name = name := by simpa using List.find?_some found
        subst same
        exact .own (mem_named_iff.1 (List.mem_of_find?_eq_some found))
    | none =>
        refine .other fun kind own => ?_
        simpa using List.find?_eq_none.1 found kind (mem_named_iff.2 own)
  · rintro (_ | others)
    · exact ofName_name kind
    · have none : (NodeKind.named.find? fun kind => kind.name = name) = none :=
        List.find?_eq_none.2 fun kind inside => by simpa using others kind (mem_named_iff.1 inside)
      rw [NodeKind.ofName, none]
      rfl

/-- The two ways to write a kind: its name, or an object that has null below the name. -/
def SpellsKind (value : Value) (name : String) : Prop :=
  value = .string name ∨ value = .object [(name, .null)]

/-- A kind is written by its name. -/
def MeansKind : Meaning NodeKind := fun value kind =>
  ∃ name, SpellsKind value name ∧ KindNamed name kind

theorem realizes_kind : Realizes decodeKind MeansKind := by
  intro value kind
  have found {name : String} : (Except.ok (NodeKind.ofName name) : Except Problem NodeKind) =
      .ok kind ↔ KindNamed name kind := by
    rw [Except.ok.injEq, ofName_eq_iff]
  constructor
  · intro read
    cases value with
    | string name => exact ⟨name, .inl rfl, found.1 read⟩
    | object members =>
        obtain _ | ⟨⟨name, content⟩, rest⟩ := members
        · cases read
        · obtain ⟨_, made, read⟩ := Outcome.bind_eq_ok_iff.1 read
          obtain ⟨_, isUnit, read⟩ := Outcome.bind_eq_ok_iff.1 read
          cases made
          cases content with
          | null =>
              cases rest with
              | nil => exact ⟨name, .inr rfl, found.1 read⟩
              | cons member rest => cases read
          | bool _ | number _ | string _ | array _ | object _ => cases isUnit
    | null | bool _ | number _ | array _ => cases read
  · rintro ⟨name, rfl | rfl, named⟩
    · exact found.2 named
    · exact found.2 named

/-! ## Variables -/

/-- A variable is a record of its name and of its identifiers, which may be missing. -/
def MeansVariable : Meaning Variable := fun value v =>
  ∃ name identifiers, Fields ["name", "identifiers"] value [name, identifiers] ∧
    Holds MeansText none name v.name ∧
    Holds (MeansList MeansRange) (some []) identifiers v.identifiers

/-- The slots of a variable as a pair. -/
def VariableSlots.view : VariableSlots ≃ Option String × Option (List TextRange) where
  toFun slots := (slots.name, slots.identifiers)
  invFun slots := ⟨slots.1, slots.2⟩
  left_inv _ := rfl
  right_inv _ := rfl

theorem VariableSlots.step_eq_ok_iff (slots : VariableSlots) (key : String) (value : Value)
    (after : VariableSlots) :
    slots.step key value.doc = .ok after ↔
      Both (Fills MeansText "name") (Fills (MeansList MeansRange) "identifiers") (view slots) key
        value (view after) := by
  obtain ⟨name, identifiers⟩ := slots
  obtain ⟨nameAfter, identifiersAfter⟩ := after
  unfold VariableSlots.step
  split
  · simp [fill_bind_eq_ok_iff realizes_string, Both, view, fills_other, pure, Except.pure]
  · simp [fill_bind_eq_ok_iff (realizes_list realizes_range), Both, view, fills_other, pure,
      Except.pure, and_comm]
  · next notName notIdentifiers =>
      simp [skip_doc, Both, view, fills_other notName, fills_other notIdentifiers, pure,
        Except.pure, bind, Except.bind]

theorem VariableSlots.fold_eq_ok_iff {members : List (String × Value)} {slots : VariableSlots} :
    foldMembers VariableSlots.step ⟨none, none⟩ (memberDocs members) = .ok slots ↔
      (∃ name, under "name" members = name.toList ∧ Option.Rel MeansText name slots.name) ∧
        ∃ identifiers, under "identifiers" members = identifiers.toList ∧
          Option.Rel (MeansList MeansRange) identifiers slots.identifiers :=
  (foldMembers_eq_ok_iff view step_eq_ok_iff).trans
    (run_both_iff.trans (and_congr run_fills_iff run_fills_iff))

theorem realizes_variable : Realizes decodeVariable MeansVariable := by
  intro value v
  cases value with
  | object members =>
      rw [Value.doc, decodeVariable]
      simp only [Outcome.bind_eq_ok_iff, required_eq_ok_iff, VariableSlots.fold_eq_ok_iff]
      constructor
      · rintro ⟨slots, ⟨⟨name, oneName, relName⟩, identifiers, oneList, relList⟩, _, given, ⟨⟩⟩
        rw [given] at relName
        exact ⟨name, identifiers, .cons oneName (.cons oneList .nil),
          holds_required_iff.2 relName, holds_default_iff.2 ⟨_, relList, rfl⟩⟩
      · rintro ⟨name, identifiers, _ | ⟨oneName, _ | ⟨oneList, _⟩⟩, holdsName, holdsList⟩
        obtain ⟨slot, relList, same⟩ := holds_default_iff.1 holdsList
        exact ⟨⟨some v.name, slot⟩, ⟨⟨name, oneName, holds_required_iff.1 holdsName⟩,
          identifiers, oneList, relList⟩, v.name, rfl, by rw [same]; rfl⟩
  | array items =>
      rw [Value.doc, decodeVariable]
      simp only [nextItem_bind_eq_ok_iff realizes_string,
        nextItem_bind_eq_ok_iff (realizes_list realizes_range), lastItem_bind_eq_ok_iff]
      simp only [MeansVariable, fields_array_cons, fields_array_nil, and_true]
      constructor
      · rintro ⟨_, holdsName, _, holdsList, last, ⟨⟩⟩
        exact ⟨_, _, ⟨rfl, rfl, last⟩, holdsName, holdsList⟩
      · rintro ⟨_, _, ⟨rfl, rfl, last⟩, holdsName, holdsList⟩
        exact ⟨_, holdsName, _, holdsList, last, rfl⟩
  | null | bool _ | number _ | string _ =>
      constructor
      · intro read
        cases read
      · rintro ⟨_, _, none, -⟩
        cases none

/-! ## Scopes -/

/-- A scope is a record of its parent and of its variables, either of which may be missing. -/
def MeansScope : Meaning ScopeEntry := fun value entry =>
  ∃ parent vars, Fields ["parent", "variables"] value [parent, vars] ∧
    Holds (MeansNullable MeansNatural32) (some none) parent entry.parent ∧
    Holds (MeansList MeansVariable) (some []) vars entry.vars

/-- The slots of a scope as a pair. -/
def ScopeSlots.view : ScopeSlots ≃ Option (Option UInt32) × Option (List Variable) where
  toFun slots := (slots.parent, slots.vars)
  invFun slots := ⟨slots.1, slots.2⟩
  left_inv _ := rfl
  right_inv _ := rfl

theorem ScopeSlots.step_eq_ok_iff (slots : ScopeSlots) (key : String) (value : Value)
    (after : ScopeSlots) :
    slots.step key value.doc = .ok after ↔
      Both (Fills (MeansNullable MeansNatural32) "parent")
        (Fills (MeansList MeansVariable) "variables") (view slots) key value (view after) := by
  obtain ⟨parent, vars⟩ := slots
  obtain ⟨parentAfter, varsAfter⟩ := after
  unfold ScopeSlots.step
  split
  · simp [fill_bind_eq_ok_iff (realizes_nullable realizes_natural32), Both, view, fills_other,
      pure, Except.pure]
  · simp [fill_bind_eq_ok_iff (realizes_list realizes_variable), Both, view, fills_other, pure,
      Except.pure, and_comm]
  · next notParent notVars =>
      simp [skip_doc, Both, view, fills_other notParent, fills_other notVars, pure, Except.pure,
        bind, Except.bind]

theorem ScopeSlots.fold_eq_ok_iff {members : List (String × Value)} {slots : ScopeSlots} :
    foldMembers ScopeSlots.step ⟨none, none⟩ (memberDocs members) = .ok slots ↔
      (∃ parent, under "parent" members = parent.toList ∧
        Option.Rel (MeansNullable MeansNatural32) parent slots.parent) ∧
        ∃ vars, under "variables" members = vars.toList ∧
          Option.Rel (MeansList MeansVariable) vars slots.vars :=
  (foldMembers_eq_ok_iff view step_eq_ok_iff).trans
    (run_both_iff.trans (and_congr run_fills_iff run_fills_iff))

theorem realizes_scope : Realizes decodeScope MeansScope := by
  intro value entry
  cases value with
  | object members =>
      rw [Value.doc, decodeScope]
      simp only [Outcome.bind_eq_ok_iff, ScopeSlots.fold_eq_ok_iff]
      constructor
      · rintro ⟨slots, ⟨⟨parent, oneParent, relParent⟩, vars, oneList, relList⟩, ⟨⟩⟩
        exact ⟨parent, vars, .cons oneParent (.cons oneList .nil),
          holds_default_iff.2 ⟨_, relParent, rfl⟩, holds_default_iff.2 ⟨_, relList, rfl⟩⟩
      · rintro ⟨parent, vars, _ | ⟨oneParent, _ | ⟨oneList, _⟩⟩, holdsParent, holdsList⟩
        obtain ⟨parentSlot, relParent, sameParent⟩ := holds_default_iff.1 holdsParent
        obtain ⟨listSlot, relList, sameList⟩ := holds_default_iff.1 holdsList
        exact ⟨⟨parentSlot, listSlot⟩, ⟨⟨parent, oneParent, relParent⟩, vars, oneList, relList⟩,
          by rw [sameParent, sameList]; rfl⟩
  | array items =>
      rw [Value.doc, decodeScope]
      simp only [nextItem_bind_eq_ok_iff (realizes_nullable realizes_natural32),
        nextItem_bind_eq_ok_iff (realizes_list realizes_variable), lastItem_bind_eq_ok_iff]
      simp only [MeansScope, fields_array_cons, fields_array_nil, and_true]
      constructor
      · rintro ⟨_, holdsParent, _, holdsList, last, ⟨⟩⟩
        exact ⟨_, _, ⟨rfl, rfl, last⟩, holdsParent, holdsList⟩
      · rintro ⟨_, _, ⟨rfl, rfl, last⟩, holdsParent, holdsList⟩
        exact ⟨_, holdsParent, _, holdsList, last, rfl⟩
  | null | bool _ | number _ | string _ =>
      constructor
      · intro read
        cases read
      · rintro ⟨_, _, none, -⟩
        cases none

/-! ## Nodes -/

/-- A node is a record of its kind, of its scope and of its range, which may be missing. -/
def MeansNode : Meaning NodeEntry := fun value entry =>
  ∃ kind scope range, Fields ["kind", "scope", "range"] value [kind, scope, range] ∧
    Holds MeansKind none kind entry.kind ∧ Holds MeansNatural32 none scope entry.scope ∧
    Holds (MeansNullable MeansRange) (some none) range entry.range

/-- The slots of a node as a triple. -/
def NodeSlots.view :
    NodeSlots ≃ Option NodeKind × Option UInt32 × Option (Option TextRange) where
  toFun slots := (slots.kind, slots.scope, slots.range)
  invFun slots := ⟨slots.1, slots.2.1, slots.2.2⟩
  left_inv _ := rfl
  right_inv _ := rfl

theorem NodeSlots.step_eq_ok_iff (slots : NodeSlots) (key : String) (value : Value)
    (after : NodeSlots) :
    slots.step key value.doc = .ok after ↔
      Both (Fills MeansKind "kind")
        (Both (Fills MeansNatural32 "scope") (Fills (MeansNullable MeansRange) "range"))
        (view slots) key value (view after) := by
  obtain ⟨kind, scope, range⟩ := slots
  obtain ⟨kindAfter, scopeAfter, rangeAfter⟩ := after
  unfold NodeSlots.step
  split
  · simp [fill_bind_eq_ok_iff realizes_kind, Both, view, fills_other, pure, Except.pure]
  · simp [fill_bind_eq_ok_iff realizes_natural32, Both, view, fills_other, pure, Except.pure,
      and_left_comm]
  · simp [fill_bind_eq_ok_iff (realizes_nullable realizes_range), Both, view, fills_other, pure,
      Except.pure, and_assoc, and_comm, and_left_comm]
  · next notKind notScope notRange =>
      simp [skip_doc, Both, view, fills_other notKind, fills_other notScope, fills_other notRange,
        pure, Except.pure, bind, Except.bind]

theorem NodeSlots.fold_eq_ok_iff {members : List (String × Value)} {slots : NodeSlots} :
    foldMembers NodeSlots.step ⟨none, none, none⟩ (memberDocs members) = .ok slots ↔
      (∃ kind, under "kind" members = kind.toList ∧ Option.Rel MeansKind kind slots.kind) ∧
        (∃ scope, under "scope" members = scope.toList ∧
          Option.Rel MeansNatural32 scope slots.scope) ∧
        ∃ range, under "range" members = range.toList ∧
          Option.Rel (MeansNullable MeansRange) range slots.range :=
  (foldMembers_eq_ok_iff view step_eq_ok_iff).trans (run_both_iff.trans (and_congr run_fills_iff
    (run_both_iff.trans (and_congr run_fills_iff run_fills_iff))))

theorem realizes_node : Realizes decodeNode MeansNode := by
  intro value entry
  cases value with
  | object members =>
      rw [Value.doc, decodeNode]
      simp only [Outcome.bind_eq_ok_iff, required_eq_ok_iff, NodeSlots.fold_eq_ok_iff]
      constructor
      · rintro ⟨slots, ⟨⟨kind, oneKind, relKind⟩, ⟨scope, oneScope, relScope⟩, range, oneRange,
          relRange⟩, _, kindGiven, _, scopeGiven, ⟨⟩⟩
        rw [kindGiven] at relKind
        rw [scopeGiven] at relScope
        exact ⟨kind, scope, range, .cons oneKind (.cons oneScope (.cons oneRange .nil)),
          holds_required_iff.2 relKind, holds_required_iff.2 relScope,
          holds_default_iff.2 ⟨_, relRange, rfl⟩⟩
      · rintro ⟨kind, scope, range, _ | ⟨oneKind, _ | ⟨oneScope, _ | ⟨oneRange, _⟩⟩⟩, holdsKind,
          holdsScope, holdsRange⟩
        obtain ⟨slot, relRange, same⟩ := holds_default_iff.1 holdsRange
        exact ⟨⟨some entry.kind, some entry.scope, slot⟩,
          ⟨⟨kind, oneKind, holds_required_iff.1 holdsKind⟩,
            ⟨scope, oneScope, holds_required_iff.1 holdsScope⟩, range, oneRange, relRange⟩,
          entry.kind, rfl, entry.scope, rfl, by rw [same]; rfl⟩
  | array items =>
      rw [Value.doc, decodeNode]
      simp only [nextItem_bind_eq_ok_iff realizes_kind, nextItem_bind_eq_ok_iff realizes_natural32,
        nextItem_bind_eq_ok_iff (realizes_nullable realizes_range), lastItem_bind_eq_ok_iff]
      simp only [MeansNode, fields_array_cons, fields_array_nil, and_true]
      constructor
      · rintro ⟨_, holdsKind, _, holdsScope, _, holdsRange, last, ⟨⟩⟩
        exact ⟨_, _, _, ⟨rfl, rfl, rfl, last⟩, holdsKind, holdsScope, holdsRange⟩
      · rintro ⟨_, _, _, ⟨rfl, rfl, rfl, last⟩, holdsKind, holdsScope, holdsRange⟩
        exact ⟨_, holdsKind, _, holdsScope, _, holdsRange, last, rfl⟩
  | null | bool _ | number _ | string _ =>
      constructor
      · intro read
        cases read
      · rintro ⟨_, _, _, none, -⟩
        cases none

/-! ## Graphs -/

/-- A graph is a record of its source, its scopes and its nodes, any of which may be missing. -/
def MeansGraph : Meaning ScopeGraph := fun value graph =>
  ∃ source scopes nodes, Fields ["source", "scopes", "nodes"] value [source, scopes, nodes] ∧
    Holds (MeansNullable MeansText) (some none) source graph.source ∧
    Holds (MeansList MeansScope) (some []) scopes graph.scopes ∧
    Holds (MeansList MeansNode) (some []) nodes graph.nodes

/-- The slots of a graph as a triple. -/
def GraphSlots.view :
    GraphSlots ≃ Option (Option String) × Option (List ScopeEntry) × Option (List NodeEntry) where
  toFun slots := (slots.source, slots.scopes, slots.nodes)
  invFun slots := ⟨slots.1, slots.2.1, slots.2.2⟩
  left_inv _ := rfl
  right_inv _ := rfl

theorem GraphSlots.step_eq_ok_iff (slots : GraphSlots) (key : String) (value : Value)
    (after : GraphSlots) :
    slots.step key value.doc = .ok after ↔
      Both (Fills (MeansNullable MeansText) "source")
        (Both (Fills (MeansList MeansScope) "scopes") (Fills (MeansList MeansNode) "nodes"))
        (view slots) key value (view after) := by
  obtain ⟨source, scopes, nodes⟩ := slots
  obtain ⟨sourceAfter, scopesAfter, nodesAfter⟩ := after
  unfold GraphSlots.step
  split
  · simp [fill_bind_eq_ok_iff (realizes_nullable realizes_string), Both, view, fills_other, pure,
      Except.pure]
  · simp [fill_bind_eq_ok_iff (realizes_list realizes_scope), Both, view, fills_other, pure,
      Except.pure, and_left_comm]
  · simp [fill_bind_eq_ok_iff (realizes_list realizes_node), Both, view, fills_other, pure,
      Except.pure, and_assoc, and_comm, and_left_comm]
  · next notSource notScopes notNodes =>
      simp [skip_doc, Both, view, fills_other notSource, fills_other notScopes,
        fills_other notNodes, pure, Except.pure, bind, Except.bind]

theorem GraphSlots.fold_eq_ok_iff {members : List (String × Value)} {slots : GraphSlots} :
    foldMembers GraphSlots.step ⟨none, none, none⟩ (memberDocs members) = .ok slots ↔
      (∃ source, under "source" members = source.toList ∧
        Option.Rel (MeansNullable MeansText) source slots.source) ∧
        (∃ scopes, under "scopes" members = scopes.toList ∧
          Option.Rel (MeansList MeansScope) scopes slots.scopes) ∧
        ∃ nodes, under "nodes" members = nodes.toList ∧
          Option.Rel (MeansList MeansNode) nodes slots.nodes :=
  (foldMembers_eq_ok_iff view step_eq_ok_iff).trans (run_both_iff.trans (and_congr run_fills_iff
    (run_both_iff.trans (and_congr run_fills_iff run_fills_iff))))

theorem realizes_graph : Realizes decodeGraph MeansGraph := by
  intro value graph
  cases value with
  | object members =>
      rw [Value.doc, decodeGraph]
      simp only [Outcome.bind_eq_ok_iff, GraphSlots.fold_eq_ok_iff]
      constructor
      · rintro ⟨slots, ⟨⟨source, oneSource, relSource⟩, ⟨scopes, oneScopes, relScopes⟩, nodes,
          oneNodes, relNodes⟩, ⟨⟩⟩
        exact ⟨source, scopes, nodes, .cons oneSource (.cons oneScopes (.cons oneNodes .nil)),
          holds_default_iff.2 ⟨_, relSource, rfl⟩, holds_default_iff.2 ⟨_, relScopes, rfl⟩,
          holds_default_iff.2 ⟨_, relNodes, rfl⟩⟩
      · rintro ⟨source, scopes, nodes, _ | ⟨oneSource, _ | ⟨oneScopes, _ | ⟨oneNodes, _⟩⟩⟩,
          holdsSource, holdsScopes, holdsNodes⟩
        obtain ⟨sourceSlot, relSource, sameSource⟩ := holds_default_iff.1 holdsSource
        obtain ⟨scopesSlot, relScopes, sameScopes⟩ := holds_default_iff.1 holdsScopes
        obtain ⟨nodesSlot, relNodes, sameNodes⟩ := holds_default_iff.1 holdsNodes
        exact ⟨⟨sourceSlot, scopesSlot, nodesSlot⟩, ⟨⟨source, oneSource, relSource⟩,
          ⟨scopes, oneScopes, relScopes⟩, nodes, oneNodes, relNodes⟩,
          by rw [sameSource, sameScopes, sameNodes]; rfl⟩
  | array items =>
      rw [Value.doc, decodeGraph]
      simp only [nextItem_bind_eq_ok_iff (realizes_nullable realizes_string),
        nextItem_bind_eq_ok_iff (realizes_list realizes_scope),
        nextItem_bind_eq_ok_iff (realizes_list realizes_node), lastItem_bind_eq_ok_iff]
      simp only [MeansGraph, fields_array_cons, fields_array_nil, and_true]
      constructor
      · rintro ⟨_, holdsSource, _, holdsScopes, _, holdsNodes, last, ⟨⟩⟩
        exact ⟨_, _, _, ⟨rfl, rfl, rfl, last⟩, holdsSource, holdsScopes, holdsNodes⟩
      · rintro ⟨_, _, _, ⟨rfl, rfl, rfl, last⟩, holdsSource, holdsScopes, holdsNodes⟩
        exact ⟨_, holdsSource, _, holdsScopes, _, holdsNodes, last, rfl⟩
  | null | bool _ | number _ | string _ =>
      constructor
      · intro read
        cases read
      · rintro ⟨_, _, _, none, -⟩
        cases none

end ShadowLint.Scope
