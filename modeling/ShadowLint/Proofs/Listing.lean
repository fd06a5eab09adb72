/-!
# Ordered listings

Nested walks over lists put out their results in the order of the positions that they went
through.  `Listed` says so of a list as a whole: it is all of the results, each as often as it
has places, in the strict order of the places.  A walk inside a walk lists its results by
pairs of places in lexicographic order (`Listed.flatMap`).
-/

namespace ShadowLint

variable {α β ι κ : Type}

/-- A list is the list of all items that stand at some place, once for every place, in the
strict order of the places. -/
def Listed (before : ι → ι → Prop) (stands : ι → β → Prop) (items : List β) : Prop :=
  ∃ entries : List (ι × β), entries.map Prod.snd = items ∧
    (entries.Pairwise fun a b => before a.1 b.1) ∧
    ∀ place item, (place, item) ∈ entries ↔ stands place item

/-- An item at a position of a list whose positions count from `start`. -/
def StandsFrom (start : Nat) (items : List α) (i : Nat) (item : α) : Prop :=
  start ≤ i ∧ items[i - start]? = some item

theorem not_standsFrom_nil {start i : Nat} {item : α} : ¬ StandsFrom start [] i item := by
  rintro ⟨_, found⟩
  cases found

theorem standsFrom_cons {start i : Nat} {first item : α} {rest : List α} :
    StandsFrom start (first :: rest) i item ↔
      i = start ∧ item = first ∨ StandsFrom (start + 1) rest i item := by
  unfold StandsFrom
  rcases Nat.lt_trichotomy i start with before | rfl | after
  · constructor
    · rintro ⟨late, _⟩
      omega
    · rintro (⟨rfl, _⟩ | ⟨late, _⟩) <;> omega
  · rw [Nat.sub_self, List.getElem?_cons_zero]
    constructor
    · rintro ⟨_, found⟩
      exact Or.inl ⟨rfl, (Option.some.inj found).symm⟩
    · rintro (⟨_, rfl⟩ | ⟨late, _⟩)
      · exact ⟨Nat.le_refl i, rfl⟩
      · omega
  · have shift : i - start = i - (start + 1) + 1 := by omega
    rw [shift, List.getElem?_cons_succ]
    constructor
    · rintro ⟨_, found⟩
      exact Or.inr ⟨after, found⟩
    · rintro (⟨rfl, _⟩ | ⟨late, found⟩)
      · omega
      · exact ⟨Nat.le_of_lt after, found⟩

theorem standsFrom_zero {items : List α} {i : Nat} {item : α} :
    StandsFrom 0 items i item ↔ items[i]? = some item := by
  rw [StandsFrom, Nat.sub_zero]
  exact ⟨And.right, fun found => ⟨Nat.zero_le i, found⟩⟩

/-- The positions in a tail, counted as in the whole list. -/
theorem standsFrom_tail {items : List α} {i : Nat} {item : α} :
    StandsFrom 1 items.tail i item ↔ 1 ≤ i ∧ items[i]? = some item := by
  refine and_congr_right fun pos => ?_
  rw [List.getElem?_tail, Nat.sub_add_cancel pos]

namespace Listed

theorem congr {before : ι → ι → Prop} {stands other : ι → β → Prop} {items : List β}
    (listed : Listed before stands items)
    (same : ∀ place item, stands place item ↔ other place item) : Listed before other items := by
  obtain ⟨entries, all, sorted, members⟩ := listed
  exact ⟨entries, all, sorted, fun place item => (members place item).trans (same place item)⟩

theorem mem_iff {before : ι → ι → Prop} {stands : ι → β → Prop} {items : List β}
    (listed : Listed before stands items) {item : β} :
    item ∈ items ↔ ∃ place, stands place item := by
  obtain ⟨entries, rfl, _, members⟩ := listed
  simp only [List.mem_map, Prod.exists, members, exists_eq_right]

theorem nil {before : ι → ι → Prop} {stands : ι → β → Prop}
    (nothing : ∀ place item, ¬ stands place item) : Listed before stands [] :=
  ⟨[], rfl, .nil, fun place item => by simp [nothing place item]⟩

theorem filterMap (start : Nat) (xs : List α) (f : α → Option β) :
    Listed (· < ·) (fun i item => ∃ x, StandsFrom start xs i x ∧ f x = some item)
      (xs.filterMap f) := by
  induction xs generalizing start with
  | nil =>
      refine nil fun i item => ?_
      rintro ⟨x, found, _⟩
      exact not_standsFrom_nil found
  | cons x rest ih =>
      obtain ⟨entries, all, sorted, members⟩ := ih (start + 1)
      -- the first item adds an entry before all others, or none
      have split : ∀ i item,
          (∃ y, StandsFrom start (x :: rest) i y ∧ f y = some item) ↔
            (i = start ∧ f x = some item) ∨ (i, item) ∈ entries := by
        intro i item
        rw [members]
        simp only [standsFrom_cons]
        grind
      cases made : f x with
      | none =>
          refine ⟨entries, ?_, sorted, fun i item => ?_⟩
          · rw [all, List.filterMap_cons_none made]
          · refine Iff.trans ?_ (split i item).symm
            rw [made]
            simp
      | some result =>
          refine ⟨(start, result) :: entries, ?_, ?_, fun i item => ?_⟩
          · rw [List.map_cons, all, List.filterMap_cons_some made]
          · refine List.pairwise_cons.2 ⟨fun entry member => ?_, sorted⟩
            obtain ⟨y, later, _⟩ := (members entry.1 entry.2).1 member
            exact Nat.lt_of_succ_le later.1
          · refine Iff.trans ?_ (split i item).symm
            rw [made, List.mem_cons]
            simp [eq_comm]

theorem flatMap {r : κ → κ → Prop} {stands : α → κ → β → Prop} (start : Nat) (xs : List α)
    (f : α → List β) (each : ∀ x ∈ xs, Listed r (stands x) (f x)) :
    Listed (Prod.Lex (· < ·) r)
      (fun place item => ∃ x, StandsFrom start xs place.1 x ∧ stands x place.2 item)
      (xs.flatMap f) := by
  induction xs generalizing start with
  | nil =>
      refine nil fun place item => ?_
      rintro ⟨x, found, _⟩
      exact not_standsFrom_nil found
  | cons x rest ih =>
      obtain ⟨inner, allInner, sortedInner, membersInner⟩ := each x List.mem_cons_self
      obtain ⟨outer, allOuter, sortedOuter, membersOuter⟩ :=
        ih (start + 1) fun y member => each y (List.mem_cons_of_mem x member)
      refine ⟨inner.map (fun entry => ((start, entry.1), entry.2)) ++ outer, ?_, ?_, ?_⟩
      · rw [List.map_append, allOuter, List.map_map, List.flatMap_cons, ← allInner]
        rfl
      · refine List.pairwise_append.2 ⟨?_, sortedOuter, ?_⟩
        · rw [List.pairwise_map]
          refine sortedInner.imp ?_
          intro a b less
          exact Prod.Lex.right start less
        · intro first fromInner second fromOuter
          obtain ⟨entry, _, rfl⟩ := List.mem_map.1 fromInner
          obtain ⟨y, later, _⟩ := (membersOuter second.1 second.2).1 fromOuter
          exact Prod.Lex.left _ _ (Nat.lt_of_succ_le later.1)
      · rintro ⟨i, place⟩ item
        have head : ((i, place), item) ∈ inner.map (fun entry => ((start, entry.1), entry.2)) ↔
            i = start ∧ stands x place item := by
          rw [← membersInner, List.mem_map]
          grind
        rw [List.mem_append, head, membersOuter]
        simp only [standsFrom_cons]
        grind

end Listed

end ShadowLint
