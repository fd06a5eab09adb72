import Mathlib.Data.List.Forall2

/-!
# Results and refusals

What is known when a chain of steps that may be refused has ended in a result, and what
when it has been refused.
-/

namespace ShadowLint.Outcome

variable {ε α β : Type}

theorem bind_eq_ok_iff {first : Except ε α} {next : α → Except ε β} {result : β} :
    first >>= next = .ok result ↔ ∃ a, first = .ok a ∧ next a = .ok result := by
  cases first with
  | error refusal => simp [bind, Except.bind]
  | ok a => simp [bind, Except.bind]

theorem bind_eq_error_iff {first : Except ε α} {next : α → Except ε β} {refusal : ε} :
    first >>= next = .error refusal ↔
      first = .error refusal ∨ ∃ a, first = .ok a ∧ next a = .error refusal := by
  cases first with
  | error other => simp [bind, Except.bind]
  | ok a => simp [bind, Except.bind]

theorem map_eq_ok_iff {first : Except ε α} {f : α → β} {result : β} :
    first.map f = .ok result ↔ ∃ a, first = .ok a ∧ f a = result := by
  cases first with
  | error refusal => simp [Except.map]
  | ok a => simp [Except.map]

theorem map_eq_error_iff {first : Except ε α} {f : α → β} {refusal : ε} :
    first.map f = .error refusal ↔ first = .error refusal := by
  cases first with
  | error other => simp [Except.map]
  | ok a => simp [Except.map]

theorem toOption_eq_some_iff {outcome : Except ε α} {result : α} :
    outcome.toOption = some result ↔ outcome = .ok result := by
  cases outcome with
  | error refusal => simp [Except.toOption]
  | ok a => simp [Except.toOption]

/-- Where every item can be read in at most one way, as what a function makes of the result, a list
of items is what that function makes of the results. -/
theorem mapM_eq_ok_iff {read : α → Except ε β} {f : β → α} {items : List α} {results : List β}
    (inverse : ∀ item ∈ items, ∀ result, read item = .ok result ↔ item = f result) :
    items.mapM read = .ok results ↔ items = results.map f := by
  induction items generalizing results with
  | nil => cases results <;> simp [pure, Except.pure]
  | cons item rest ih =>
      obtain ⟨first, others⟩ := List.forall_mem_cons.1 inverse
      simp only [List.mapM_cons, bind_eq_ok_iff, first, ih others, pure, Except.pure,
        Except.ok.injEq]
      cases results with
      | nil => simp
      | cons result more => simp

/-- Items are read to a list of results exactly where each of them is read to its own. -/
theorem mapM_eq_ok_iff_forall₂ {read : α → Except ε β} {items : List α} {results : List β} :
    items.mapM read = .ok results ↔
      List.Forall₂ (fun item result => read item = .ok result) items results := by
  induction items generalizing results with
  | nil => simp [pure, Except.pure, eq_comm]
  | cons item rest ih =>
      simp only [List.mapM_cons, bind_eq_ok_iff, ih, pure, Except.pure, Except.ok.injEq]
      constructor
      · rintro ⟨first, one, others, more, rfl⟩
        exact .cons one more
      · rintro (_ | ⟨one, more⟩)
        exact ⟨_, one, _, more, rfl⟩

/-- A list of items can be read exactly where each of them can. -/
theorem exists_mapM_eq_ok_iff {read : α → Except ε β} {items : List α} :
    (∃ results, items.mapM read = .ok results) ↔
      ∀ item ∈ items, ∃ result, read item = .ok result := by
  induction items with
  | nil => simp [pure, Except.pure]
  | cons item rest ih =>
      rw [List.forall_mem_cons, ← ih]
      simp only [List.mapM_cons, bind_eq_ok_iff, pure, Except.pure, Except.ok.injEq]
      constructor
      · rintro ⟨_, first, one, others, more, rfl⟩
        exact ⟨⟨first, one⟩, others, more⟩
      · rintro ⟨⟨first, one⟩, others, more⟩
        exact ⟨first :: others, first, one, others, more, rfl⟩

/-- Reading items is refused where the first that is refused is refused. -/
theorem mapM_eq_error_iff {read : α → Except ε β} {items : List α} {refusal : ε} :
    items.mapM read = .error refusal ↔
      ∃ before item after, items = before ++ item :: after ∧
        (∀ earlier ∈ before, ∃ result, read earlier = .ok result) ∧
        read item = .error refusal := by
  induction items with
  | nil => simp [pure, Except.pure]
  | cons item rest ih =>
      rw [List.mapM_cons, bind_eq_error_iff]
      constructor
      · rintro (first | ⟨result, one, later⟩)
        · exact ⟨[], item, rest, rfl, by simp, first⟩
        · rcases bind_eq_error_iff.1 later with others | ⟨_, _, impossible⟩
          · obtain ⟨before, refused, after, rfl, earlier, why⟩ := ih.1 others
            exact ⟨item :: before, refused, after, rfl,
              List.forall_mem_cons.2 ⟨⟨result, one⟩, earlier⟩, why⟩
          · cases impossible
      · rintro ⟨before, refused, after, split, earlier, why⟩
        cases before with
        | nil =>
            cases split
            exact Or.inl why
        | cons first others =>
            cases split
            obtain ⟨⟨result, one⟩, more⟩ := List.forall_mem_cons.1 earlier
            refine Or.inr ⟨result, one, ?_⟩
            rw [ih.2 ⟨others, refused, after, rfl, more, why⟩]
            rfl

end ShadowLint.Outcome
