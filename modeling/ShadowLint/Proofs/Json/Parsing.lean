import ShadowLint.Json.Read
import ShadowLint.Proofs.Json.Lexing

/-!
# Trees of the texts of values

`Value.doc` is the tree of a value, without any fault.  The tokens of a value are arranged into
this tree and nothing behind them is touched (`Value.take_tokens`), so reading any text of a
value is reading its tree (`Value.Renders.read_eq`).

Three steps for each token are enough for the arrangement: a bracket takes two and leaves one
to spare for what stands inside.
-/

namespace ShadowLint.Json

mutual

/-- The tree of a value. -/
def Value.doc : Value → Doc
  | .null => .null
  | .bool value => .bool value
  | .number numeral => .number numeral
  | .string text => .string (some text)
  | .array items => .array (itemDocs items)
  | .object members => .object (memberDocs members)

/-- The rest of an array that holds the given values. -/
def itemDocs : List Value → Items
  | [] => .closed
  | head :: rest => .item head.doc (itemDocs rest)

/-- The rest of an object that holds the given members. -/
def memberDocs : List (String × Value) → Members
  | [] => .closed
  | (key, value) :: rest => .member (some key) value.doc (memberDocs rest)

end

/-! ## Arranging tokens -/

/-- Enough steps arrange the tokens of a value into its tree. -/
def Arranges (value : Value) : Prop :=
  ∀ (fuel : Nat) (rest : List Token), 3 * value.tokens.length ≤ fuel →
    Doc.take fuel (value.tokens ++ rest) = (value.doc, rest)

theorem takeMore_itemTokens {items : List Value} (each : ∀ item ∈ items, Arranges item)
    (fuel : Nat) (rest : List Token) (enough : 3 * (itemTokens items).length + 1 ≤ fuel) :
    Items.takeMore fuel (itemTokens items ++ .rightBracket :: rest) = (itemDocs items, rest) := by
  induction items generalizing fuel with
  | nil =>
      obtain ⟨fuel, rfl⟩ := Nat.exists_eq_add_of_le' enough
      rfl
  | cons head others ih =>
      rw [itemTokens, List.length_cons, List.length_append] at enough
      obtain ⟨fuel, rfl⟩ := Nat.exists_eq_add_of_le' (Nat.le_trans (by omega : 2 ≤ _) enough)
      have first := each head List.mem_cons_self fuel
        (itemTokens others ++ .rightBracket :: rest) (by omega)
      have behind := ih (fun item member => each item (List.mem_cons_of_mem head member)) fuel
        (by omega)
      rw [itemTokens, List.cons_append, List.append_assoc, Items.takeMore, Items.takeItem, first]
      dsimp only
      rw [behind, itemDocs]

theorem takeMore_memberTokens {members : List (String × Value)}
    (each : ∀ member ∈ members, Arranges member.2) (fuel : Nat) (rest : List Token)
    (enough : 3 * (memberTokens members).length + 1 ≤ fuel) :
    Members.takeMore fuel (memberTokens members ++ .rightBrace :: rest) =
      (memberDocs members, rest) := by
  induction members generalizing fuel with
  | nil =>
      obtain ⟨fuel, rfl⟩ := Nat.exists_eq_add_of_le' enough
      rfl
  | cons head others ih =>
      obtain ⟨key, value⟩ := head
      rw [memberTokens, List.length_cons, List.length_cons, List.length_cons,
        List.length_append] at enough
      obtain ⟨fuel, rfl⟩ := Nat.exists_eq_add_of_le' (Nat.le_trans (by omega : 3 ≤ _) enough)
      have arranges : Arranges value := each (key, value) List.mem_cons_self
      have first := arranges fuel (memberTokens others ++ .rightBrace :: rest) (by omega)
      have behind := ih
        (fun member inside => each member (List.mem_cons_of_mem (key, value) inside)) (fuel + 1)
        (by omega)
      rw [memberTokens, List.cons_append, List.cons_append, List.cons_append, List.append_assoc,
        Members.takeMore, Members.takeMember, Doc.takeValue, first]
      dsimp only
      rw [behind, memberDocs]

/-- The first token of a value is not the bracket that ends an array. -/
theorem Value.tokens_eq_cons (value : Value) :
    ∃ first rest, value.tokens = first :: rest ∧ first ≠ .rightBracket := by
  cases value with
  | null | bool _ | number _ | string _ => exact ⟨_, _, rfl, Token.noConfusion⟩
  | array items => cases items with
    | nil | cons _ _ => exact ⟨_, _, rfl, Token.noConfusion⟩
  | object members => cases members with
    | nil | cons _ _ => exact ⟨_, _, rfl, Token.noConfusion⟩

theorem arranges_array {items : List Value} (each : ∀ item ∈ items, Arranges item) :
    Arranges (.array items) := by
  intro fuel rest enough
  cases items with
  | nil =>
      obtain ⟨fuel, rfl⟩ := Nat.exists_eq_add_of_le' (Nat.le_trans (by decide : 2 ≤ _) enough)
      rfl
  | cons head others =>
      rw [Value.tokens, List.length_cons, List.length_append, List.length_append,
        List.length_singleton] at enough
      obtain ⟨fuel, rfl⟩ := Nat.exists_eq_add_of_le' (Nat.le_trans (by omega : 3 ≤ _) enough)
      have first := each head List.mem_cons_self fuel
        (itemTokens others ++ .rightBracket :: rest) (by omega)
      have behind := takeMore_itemTokens
        (fun item member => each item (List.mem_cons_of_mem head member)) fuel rest (by omega)
      -- the array is not empty, for no value starts with the bracket that would end it
      have opened : Items.takeFirst (fuel + 2)
          (head.tokens ++ (itemTokens others ++ .rightBracket :: rest)) =
            Items.takeItem (fuel + 1)
              (head.tokens ++ (itemTokens others ++ .rightBracket :: rest)) := by
        obtain ⟨token, tail, same, notClosed⟩ := head.tokens_eq_cons
        rw [same, List.cons_append, Items.takeFirst]
        · intro none
          cases none
        · intro tail' closed
          exact notClosed (List.cons.inj closed).1
      rw [Value.tokens, List.cons_append, List.append_assoc, List.append_assoc,
        List.singleton_append, Doc.take]
      dsimp only
      rw [opened, Items.takeItem, first]
      dsimp only
      rw [behind, Value.doc, itemDocs]

theorem arranges_object {members : List (String × Value)}
    (each : ∀ member ∈ members, Arranges member.2) : Arranges (.object members) := by
  intro fuel rest enough
  cases members with
  | nil =>
      obtain ⟨fuel, rfl⟩ := Nat.exists_eq_add_of_le' (Nat.le_trans (by decide : 2 ≤ _) enough)
      rfl
  | cons head others =>
      obtain ⟨key, value⟩ := head
      rw [Value.tokens, List.length_cons, List.length_cons, List.length_cons, List.length_append,
        List.length_append, List.length_singleton] at enough
      obtain ⟨fuel, rfl⟩ := Nat.exists_eq_add_of_le' (Nat.le_trans (by omega : 4 ≤ _) enough)
      have arranges : Arranges value := each (key, value) List.mem_cons_self
      have first := arranges fuel (memberTokens others ++ .rightBrace :: rest) (by omega)
      have behind := takeMore_memberTokens
        (fun member inside => each member (List.mem_cons_of_mem (key, value) inside))
        (fuel + 1) rest (by omega)
      rw [Value.tokens, List.cons_append, List.cons_append, List.cons_append, List.append_assoc,
        List.append_assoc, List.singleton_append, Doc.take]
      dsimp only
      rw [Members.takeFirst, Members.takeMember, Doc.takeValue, first]
      · dsimp only
        rw [behind, Value.doc, memberDocs]
      · intro tail closed
        cases closed

theorem Value.take_tokens (value : Value) : Arranges value := by
  have scalar {fuel : Nat} (enough : 3 ≤ fuel) : ∃ spare, fuel = spare + 1 :=
    ⟨fuel - 1, by omega⟩
  induction value using Value.induction with
  | null | bool _ | number _ | string _ =>
      intro fuel rest enough
      obtain ⟨fuel, rfl⟩ := scalar enough
      rfl
  | array items each => exact arranges_array each
  | object members each => exact arranges_object each

theorem Value.ofTokens_tokens (value : Value) : Doc.ofTokens value.tokens = (value.doc, []) := by
  have taken := value.take_tokens (3 * value.tokens.length + 1) [] (Nat.le_succ _)
  rwa [List.append_nil] at taken

/-- Reading a text of a value is reading the tree of the value. -/
theorem Value.Renders.read_eq {α : Type} {value : Value} {text : String}
    (renders : value.Renders text) (reader : Reader α) : read reader text = reader value.doc := by
  unfold read
  rw [renders.tokens_eq, value.ofTokens_tokens]
  dsimp only
  cases reader value.doc with
  | error problem => rfl
  | ok result => rfl

/-! ## What a text is a text of -/

theorem itemDocs_injective {items : List Value}
    (each : ∀ item ∈ items, ∀ other : Value, item.doc = other.doc → item = other)
    (others : List Value) (same : itemDocs items = itemDocs others) : items = others := by
  induction items generalizing others with
  | nil =>
      cases others with
      | nil => rfl
      | cons other more => cases same
  | cons head rest ih =>
      cases others with
      | nil => cases same
      | cons other more =>
          obtain ⟨first, behind⟩ := Items.item.inj same
          obtain ⟨headUnique, restUnique⟩ := List.forall_mem_cons.1 each
          rw [headUnique other first, ih restUnique more behind]

theorem memberDocs_injective {members : List (String × Value)}
    (each : ∀ member ∈ members, ∀ other : Value, member.2.doc = other.doc → member.2 = other)
    (others : List (String × Value)) (same : memberDocs members = memberDocs others) :
    members = others := by
  induction members generalizing others with
  | nil =>
      cases others with
      | nil => rfl
      | cons other more => cases same
  | cons head rest ih =>
      cases others with
      | nil => cases same
      | cons other more =>
          obtain ⟨key, value⟩ := head
          obtain ⟨otherKey, otherValue⟩ := other
          obtain ⟨sameKey, first, behind⟩ := Members.member.inj same
          obtain ⟨headUnique, restUnique⟩ := List.forall_mem_cons.1 each
          rw [Option.some.inj sameKey, show value = otherValue from headUnique otherValue first,
            ih restUnique more behind]

/-- Values with the same tree are the same. -/
theorem Value.doc_injective : Function.Injective Value.doc := by
  intro value
  induction value using Value.induction with
  | null | bool _ | number _ | string _ =>
      intro other same
      cases other <;> cases same
      rfl
  | array items each =>
      intro other same
      cases other with
      | array others => rw [itemDocs_injective each others (Doc.array.inj same)]
      | null | bool _ | number _ | string _ | object _ => cases same
  | object members each =>
      intro other same
      cases other with
      | object others => rw [memberDocs_injective each others (Doc.object.inj same)]
      | null | bool _ | number _ | string _ | array _ => cases same

/-- A text is a text of at most one value. -/
theorem Value.Renders.unique {value other : Value} {text : String} (first : value.Renders text)
    (second : other.Renders text) : value = other := by
  have trees : Doc.ofTokens value.tokens = Doc.ofTokens other.tokens := by
    rw [← first.tokens_eq, second.tokens_eq]
  rw [value.ofTokens_tokens, other.ofTokens_tokens] at trees
  exact Value.doc_injective (congrArg Prod.fst trees)

/-! ## Whole values -/

mutual

/-- A tree without a fault is skipped. -/
theorem Value.fault?_doc : ∀ value : Value, value.doc.fault? = none
  | .null => rfl
  | .bool _ => rfl
  | .number _ => rfl
  | .string _ => rfl
  | .array items => by rw [Value.doc, Doc.fault?, fault?_itemDocs items]
  | .object members => by rw [Value.doc, Doc.fault?, fault?_memberDocs members]

theorem fault?_itemDocs : ∀ items : List Value, (itemDocs items).fault? = none
  | [] => rfl
  | head :: rest => by
      rw [itemDocs, Items.fault?, head.fault?_doc, fault?_itemDocs rest]
      rfl

theorem fault?_memberDocs : ∀ members : List (String × Value), (memberDocs members).fault? = none
  | [] => rfl
  | (key, value) :: rest => by
      rw [memberDocs, Members.fault?, value.fault?_doc, fault?_memberDocs rest]
      rfl

end

theorem skip_doc (value : Value) : skip value.doc = .ok () := by
  rw [skip, value.fault?_doc]

end ShadowLint.Json
