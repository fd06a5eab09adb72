import ShadowLint.Proofs.Json.Compact
import ShadowLint.Proofs.Json.Schema
import ShadowLint.Proofs.Scope.Reading

/-!
# The schema of scope-graph documents

The schema of a document and of each of its records, and the theorem that the reader accepts
exactly the texts of the values that conform to it.  What it finds is what the value stands for,
so two texts whose values only differ in the order of members, in members that no field asks for
or in the form of a record or of a kind give the same graph.
-/

namespace ShadowLint.Scope

open ShadowLint.Json

/-! ## Shapes -/

/-- Arrays of two integers of 32 bits, the second of which is no smaller. -/
def rangeShape : Shape := .plain fun value => ∃ first last start stop,
  value = .array [first, last] ∧ Shape.IsLiteral first start ∧ Shape.IsLiteral last stop ∧
    start ≤ stop ∧ stop < 4294967296

/-- Strings, and objects of one member whose value is null. -/
def kindShape : Shape where
  conforms value := ∃ name, SpellsKind value name
  alike value other := value = other ∨ ∃ name, SpellsKind value name ∧ SpellsKind other name
  alike_refl _ := .inl rfl

/-- Records of a name and identifiers. -/
def variableShape : Shape :=
  .record [⟨"name", true, .text⟩, ⟨"identifiers", false, .list rangeShape⟩]

/-- Records of a parent and variables. -/
def scopeShape : Shape :=
  .record [⟨"parent", false, .nullable .natural32⟩, ⟨"variables", false, .list variableShape⟩]

/-- Records of a kind, a scope and a range. -/
def nodeShape : Shape :=
  .record [⟨"kind", true, kindShape⟩, ⟨"scope", true, .natural32⟩,
    ⟨"range", false, .nullable rangeShape⟩]

/-- Records of a source, scopes and nodes. -/
def graphShape : Shape :=
  .record [⟨"source", false, .nullable .text⟩, ⟨"scopes", false, .list scopeShape⟩,
    ⟨"nodes", false, .list nodeShape⟩]

/-! ## What the shapes describe -/

theorem describes_range : rangeShape.Describes MeansRange := by
  refine Shape.describes_plain fun value => ?_
  constructor
  · rintro ⟨first, last, start, stop, rfl, isStart, isStop, ordered, small⟩
    obtain ⟨m, rfl⟩ := Shape.exists_natural32_iff.2 (Nat.lt_of_le_of_lt ordered small)
    obtain ⟨n, rfl⟩ := Shape.exists_natural32_iff.2 small
    exact ⟨⟨m, n, UInt32.le_iff_toNat_le.2 ordered⟩,
      .mk (Shape.means_natural32_iff.2 isStart) (Shape.means_natural32_iff.2 isStop)⟩
  · rintro ⟨range, ⟨meansStart, meansStop⟩⟩
    exact ⟨_, _, _, _, rfl, Shape.means_natural32_iff.1 meansStart,
      Shape.means_natural32_iff.1 meansStop, UInt32.le_iff_toNat_le.1 range.start_le_stop,
      range.stop.toNat_lt⟩

/-- A value spells at most one name. -/
theorem SpellsKind.unique {value : Value} {name other : String} (first : SpellsKind value name)
    (second : SpellsKind value other) : name = other := by
  rcases first with rfl | rfl <;> rcases second with same | same <;> cases same <;> rfl

theorem describes_kind : kindShape.Describes MeansKind where
  conforms_iff value := by
    constructor
    · rintro ⟨name, spells⟩
      exact ⟨NodeKind.ofName name, name, spells, ofName_eq_iff.1 rfl⟩
    · rintro ⟨_, name, spells, _⟩
      exact ⟨name, spells⟩
  alike same kind := by
    rcases same with rfl | ⟨name, spells, spellsToo⟩
    · rfl
    · constructor
      · rintro ⟨found, spellsFound, named⟩
        exact ⟨name, spellsToo, spells.unique spellsFound ▸ named⟩
      · rintro ⟨found, spellsFound, named⟩
        exact ⟨name, spells, spellsToo.unique spellsFound ▸ named⟩

theorem describes_variable : variableShape.Describes MeansVariable :=
  Shape.describes_pair (fun v : Variable => (v.name, v.identifiers))
    (fun name identifiers => ⟨⟨name, identifiers⟩, rfl⟩) ⟨Shape.describes_text, rfl⟩
    ⟨Shape.describes_list describes_range, rfl⟩

theorem describes_scope : scopeShape.Describes MeansScope :=
  Shape.describes_pair (fun entry : ScopeEntry => (entry.parent, entry.vars))
    (fun parent vars => ⟨⟨parent, vars⟩, rfl⟩)
    ⟨Shape.describes_nullable Shape.describes_natural32, rfl⟩
    ⟨Shape.describes_list describes_variable, rfl⟩

theorem describes_node : nodeShape.Describes MeansNode :=
  Shape.describes_triple (fun entry : NodeEntry => (entry.kind, entry.scope, entry.range))
    (fun kind scope range => ⟨⟨kind, scope, range⟩, rfl⟩) ⟨describes_kind, rfl⟩
    ⟨Shape.describes_natural32, rfl⟩ ⟨Shape.describes_nullable describes_range, rfl⟩

theorem describes_graph : graphShape.Describes MeansGraph :=
  Shape.describes_triple (fun graph : ScopeGraph => (graph.source, graph.scopes, graph.nodes))
    (fun source scopes nodes => ⟨⟨source, scopes, nodes⟩, rfl⟩)
    ⟨Shape.describes_nullable Shape.describes_text, rfl⟩
    ⟨Shape.describes_list describes_scope, rfl⟩ ⟨Shape.describes_list describes_node, rfl⟩

/-! ## Texts -/

theorem ofText_eq_ok_iff {value : Value} {text : String} (renders : value.Renders text)
    (graph : ScopeGraph) : ScopeGraph.ofText text = .ok graph ↔ MeansGraph value graph := by
  rw [ScopeGraph.ofText, renders.read_eq]
  exact realizes_graph value graph

/-- A text of a value is accepted exactly if the value conforms to the schema.  What is found is
what the value stands for field by field, and another value that says the same, in any text of
it, gives the same graph or none either. -/
theorem ofText_reads_schema {value : Value} {text : String} (renders : value.Renders text) :
    ((∃ graph, ScopeGraph.ofText text = .ok graph) ↔ graphShape.conforms value) ∧
      (∀ graph, ScopeGraph.ofText text = .ok graph ↔ MeansGraph value graph) ∧
      ∀ {other : Value} {otherText : String}, graphShape.alike value other →
        other.Renders otherText → ∀ graph,
          ScopeGraph.ofText text = .ok graph ↔ ScopeGraph.ofText otherText = .ok graph := by
  refine ⟨?_, ofText_eq_ok_iff renders, fun same otherRenders graph => ?_⟩
  · rw [describes_graph.conforms_iff]
    exact exists_congr (ofText_eq_ok_iff renders)
  · rw [ofText_eq_ok_iff renders, ofText_eq_ok_iff otherRenders]
    exact describes_graph.alike same graph

/-- The members are not in the order of the fields, and no field asks for one of them. -/
def shuffledMembers : List (String × Value) :=
  [("nodes", .array []), ("note", .bool true), ("scopes", .array [.array []])]

/-- The same members in order. -/
def orderedMembers : List (String × Value) :=
  [("scopes", .array [.array []]), ("nodes", .array [])]

/-- A text with white space around tokens and with a character that is written by its number. -/
def shuffledText : String := " \x7b\t\"nodes\":[],\"n\\u006fte\" : true\r,\"scopes\":[[]]\x7d\n"

theorem shuffledMembers_renders : (Value.object shuffledMembers).Renders shuffledText := by
  have blank {c : Char} (space : c = ' ' ∨ c = '\t' ∨ c = '\n' ∨ c = '\r') : Blank [c] := by
    intro other inside
    cases List.mem_singleton.1 inside
    exact space
  have empty : Spaced [.leftBracket, .rightBracket] ['[', ']'] :=
    Token.Written.leftBracket.spaced.append Token.Written.rightBracket.spaced
  have note : Spaced [.string (some "note")]
      ['"', 'n', '\\', 'u', '0', '0', '6', 'f', 't', 'e', '"'] := by
    have number : UnitWritten 'o'.toNat ['0', '0', '6', 'f'] :=
      @UnitWritten.mk '0' '0' '6' 'f' 0 0 6 15 rfl rfl rfl rfl
    have spelled : CharsWritten "note".toList
        (['n'] ++ ('\\' :: 'u' :: ['0', '0', '6', 'f'] ++ (['t'] ++ (['e'] ++ [])))) :=
      .cons (.plain (by decide) (by decide) (by decide)) (.cons (.unit number)
        (.cons (.plain (by decide) (by decide) (by decide))
          (.cons (.plain (by decide) (by decide) (by decide)) .nil)))
    exact (Token.Written.string spelled).spaced
  have first := (Token.Written.leftBrace.spaced.prepend (blank (.inl rfl))).append
    (((spaced_stringText "nodes").prepend (blank (.inr (.inl rfl)))).append
      (Token.Written.colon.spaced.append (empty.append Token.Written.comma.spaced)))
  have second := note.append ((Token.Written.colon.spaced.prepend (blank (.inl rfl))).append
    (Token.Written.trueWord.spaced.prepend (blank (.inl rfl))))
  have third := (Token.Written.comma.spaced.prepend (blank (.inr (.inr (.inr rfl))))).append
    ((spaced_stringText "scopes").append (Token.Written.colon.spaced.append
      (Token.Written.leftBracket.spaced.append (empty.append
        (Token.Written.rightBracket.spaced.append (Token.Written.rightBrace.spaced.append
          (.nil (blank (.inr (.inr (.inl rfl)))))))))))
  exact first.append (second.append third)

theorem orderedMembers_compacts : (Value.object orderedMembers).Compacts := by
  have empty : (Value.array []).Compacts := compacts_array nofun
  have one : (Value.array [.array []]).Compacts :=
    compacts_array (List.forall_mem_singleton.2 empty)
  exact compacts_object (List.forall_mem_cons.2 ⟨one, List.forall_mem_singleton.2 empty⟩)

/-- A graph of the global scope only. -/
def loneScope : ScopeGraph := ⟨none, [⟨none, []⟩], []⟩

theorem shuffledMembers_means : MeansGraph (.object shuffledMembers) loneScope := by
  have scope : MeansScope (.array []) ⟨none, []⟩ :=
    ⟨none, none, ⟨Nat.zero_le 2, rfl⟩, .absent rfl, .absent rfl⟩
  exact ⟨none, _, _, .cons rfl (.cons rfl (.cons rfl .nil)), .absent rfl,
    .given (.mk (.cons scope .nil)), .given (.mk .nil)⟩

/-- Neither the order of the members nor a member that no field asks for makes a difference. -/
theorem ofText_of_shuffledMembers :
    graphShape.conforms (.object shuffledMembers) ∧
      graphShape.alike (.object shuffledMembers) (.object orderedMembers) ∧
      ScopeGraph.ofText shuffledText = .ok loneScope ∧
      ScopeGraph.ofText (Value.object orderedMembers).compactText = .ok loneScope := by
  obtain ⟨accepted, found, alike⟩ := ofText_reads_schema shuffledMembers_renders
  have read := (found _).2 shuffledMembers_means
  have conforms := accepted.1 ⟨_, read⟩
  have same : graphShape.alike (.object shuffledMembers) (.object orderedMembers) :=
    ConformsRecord.alike_of_perm conforms (List.Perm.swap _ _ _)
  exact ⟨conforms, same, read, (alike same orderedMembers_compacts.renders _).1 read⟩

end ShadowLint.Scope
