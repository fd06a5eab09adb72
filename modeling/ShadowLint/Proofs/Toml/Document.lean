import Mathlib.Data.Option.Basic
import ShadowLint.Proofs.NameTable
import ShadowLint.Proofs.Toml.Tree
import ShadowLint.Toml.Document

/-!
# The tables of documents

Whatever a line of a document adds to the tables, the entries of each table stay in ascending
order of their keys (`Draft.add_ordered`), and so they are in the end (`document?_ordered`).  In
particular no table of a document has a key twice.
-/

namespace ShadowLint.Toml

/-- The entries of every table in a value are in ascending order of their keys. -/
inductive Value.Ordered : Value → Prop
  | scalar {value : Value} (scalar : value.IsScalar) : Ordered value
  | array {items : List Value} (each : ∀ item ∈ items, Ordered item) : Ordered (.array items)
  | table {entries : List (String × Value)} (ascending : entries.Pairwise fun a b => a.1 < b.1)
      (each : ∀ entry ∈ entries, Ordered entry.2) : Ordered (.table entries)

theorem Value.Ordered.distinct_keys {entries : List (String × Value)}
    (ordered : (Value.table entries).Ordered) : (entries.map Prod.fst).Nodup := by
  cases ordered with
  | scalar scalar => exact scalar.elim
  | table ascending _ => exact List.pairwise_map.2 (ascending.imp String.ne_of_lt)

theorem Value.Ordered.entry {entries : List (String × Value)}
    (ordered : (Value.table entries).Ordered) {entry : String × Value} (member : entry ∈ entries) :
    entry.2.Ordered := by
  cases ordered with
  | scalar scalar => exact scalar.elim
  | table _ each => exact each entry member

/-- The entries of every table below a key are in ascending order of their keys. -/
inductive Branch.Ordered : Branch → Prop
  | value {value : Value} (ordered : value.Ordered) : Ordered (.value value)
  | table {origin : Origin} {entries : List (String × Branch)}
      (ascending : entries.Pairwise fun a b => a.1 < b.1)
      (each : ∀ entry ∈ entries, Ordered entry.2) : Ordered (.table origin entries)
  | tables {earlier : List (List (String × Branch))} {last : List (String × Branch)}
      (ascending : ∀ entries ∈ earlier ++ [last], entries.Pairwise fun a b => a.1 < b.1)
      (each : ∀ entries ∈ earlier ++ [last], ∀ entry ∈ entries, Ordered entry.2) :
      Ordered (.tables earlier last)

/-- The entries of a table that is being filled, and of every table below it, are in ascending
order of their keys. -/
structure Branches.Ordered (entries : Branches) : Prop where
  ascending : entries.Pairwise fun a b => a.1 < b.1
  each : ∀ entry ∈ entries, entry.2.Ordered

/-! ## Filling tables -/

namespace Branches

variable {entries result : Branches} {branch : Branch} {key : String} {origin : Origin}
  {path : KeyPath}

theorem ordered_nil : Branches.Ordered [] := ⟨.nil, by simp⟩

theorem Ordered.distinct (ordered : Branches.Ordered entries) : (entries.map Prod.fst).Nodup :=
  List.pairwise_map.2 (ordered.ascending.imp String.ne_of_lt)

theorem Ordered.lookup (ordered : Branches.Ordered entries)
    (found : entries.lookup key = some branch) : branch.Ordered :=
  ordered.each _ ((mem_iff_lookup_eq_some ordered.distinct).2 found)

theorem Ordered.insert (ordered : Branches.Ordered entries) (inside : branch.Ordered) :
    Branches.Ordered (insertEntry key branch entries) := by
  have ascending := pairwise_insertEntry key branch ordered.ascending
  refine ⟨ascending, fun entry member => ?_⟩
  have distinct : ((insertEntry key branch entries).map Prod.fst).Nodup :=
    List.pairwise_map.2 (ascending.imp String.ne_of_lt)
  have found := (mem_iff_lookup_eq_some distinct).1 member
  rw [lookup_insertEntry] at found
  split at found
  · exact Option.some.inj found ▸ inside
  · exact ordered.lookup found

/-- A change of the table at the end of a way keeps the order if it keeps it in that table. -/
theorem reach_ordered {byDots : Bool} {change : Origin → Branches → Option Branches}
    (changes : ∀ origin entries result, Branches.Ordered entries →
      change origin entries = some result → Branches.Ordered result)
    {way : List String} (ordered : Branches.Ordered entries)
    (reached : reach byDots change way origin entries = some result) :
    Branches.Ordered result := by
  induction way generalizing origin entries result with
  | nil => exact changes _ _ _ ordered reached
  | cons key way ih =>
      rw [reach] at reached
      split at reached
      next =>
        obtain ⟨inner, below, made⟩ := Option.bind_eq_some_iff.1 reached
        cases made
        have inside := ih ordered_nil below
        exact ordered.insert (.table inside.ascending inside.each)
      next former inner found =>
        split at reached
        · cases reached
        · obtain ⟨inner, below, made⟩ := Option.bind_eq_some_iff.1 reached
          cases made
          cases ordered.lookup found with
          | table ascending each =>
              have inside := ih ⟨ascending, each⟩ below
              exact ordered.insert (.table inside.ascending inside.each)
      next earlier last found =>
        obtain ⟨inner, below, made⟩ := Option.bind_eq_some_iff.1 reached
        cases made
        cases ordered.lookup found with
        | tables ascending each =>
            rw [List.forall_mem_append, List.forall_mem_singleton] at ascending each
            have inside := ih ⟨ascending.2, each.2⟩ below
            refine ordered.insert (.tables ?_ ?_)
            · rw [List.forall_mem_append, List.forall_mem_singleton]
              exact ⟨ascending.1, inside.ascending⟩
            · rw [List.forall_mem_append, List.forall_mem_singleton]
              exact ⟨each.1, inside.each⟩
      next => cases reached

theorem assign_ordered {value : Value} (ordered : Branches.Ordered entries)
    (inside : value.Ordered) (assigned : assign path value entries = some result) :
    Branches.Ordered result := by
  refine reach_ordered (fun origin entries result ordered changed => ?_) ordered assigned
  split at changed
  · cases changed
  · split at changed
    · cases changed
      exact ordered.insert (.value inside)
    · cases changed

theorem openTable_ordered (ordered : Branches.Ordered entries)
    (opened : openTable path entries = some result) : Branches.Ordered result := by
  refine reach_ordered (fun origin entries result ordered changed => ?_) ordered opened
  split at changed
  next =>
    cases changed
    exact ordered.insert (.table .nil (by simp))
  next inner found =>
    cases changed
    cases ordered.lookup found with
    | table ascending each => exact ordered.insert (.table ascending each)
  next => cases changed

theorem openElement_ordered (ordered : Branches.Ordered entries)
    (opened : openElement path entries = some result) : Branches.Ordered result := by
  refine reach_ordered (fun origin entries result ordered changed => ?_) ordered opened
  split at changed
  next =>
    cases changed
    exact ordered.insert (.tables (by simp) (by simp))
  next earlier last found =>
    cases changed
    cases ordered.lookup found with
    | tables ascending each =>
        refine ordered.insert (.tables ?_ ?_)
        · rw [List.forall_mem_append, List.forall_mem_singleton]
          exact ⟨ascending, .nil⟩
        · rw [List.forall_mem_append, List.forall_mem_singleton]
          exact ⟨each, by simp⟩
  next => cases changed

theorem assignBelow_ordered {header : List String} {value : Value}
    (ordered : Branches.Ordered entries) (inside : value.Ordered)
    (assigned : assignBelow header path value entries = some result) :
    Branches.Ordered result :=
  reach_ordered (fun _ _ _ ordered changed => assign_ordered ordered inside changed) ordered
    assigned

end Branches

/-! ## Finished tables -/

theorem closeEntries_eq (entries : Branches) :
    closeEntries entries = entries.map fun entry => (entry.1, entry.2.close) := by
  induction entries with
  | nil => rfl
  | cons entry rest ih => rw [closeEntries, ih, List.map_cons]

theorem closeTables_eq (tables : List Branches) :
    closeTables tables = tables.map fun entries => .table (closeEntries entries) := by
  induction tables with
  | nil => rfl
  | cons entries rest ih => rw [closeTables, ih, List.map_cons]

theorem ordered_closeEntries {entries : Branches}
    (ascending : entries.Pairwise fun a b => a.1 < b.1)
    (each : ∀ entry ∈ entries, entry.2.close.Ordered) :
    (Value.table (closeEntries entries)).Ordered := by
  rw [closeEntries_eq]
  refine .table (List.pairwise_map.2 ascending) fun entry member => ?_
  obtain ⟨origin, inside, rfl⟩ := List.mem_map.1 member
  exact each origin inside

theorem Branch.Ordered.close {branch : Branch} (ordered : branch.Ordered) :
    branch.close.Ordered := by
  induction ordered with
  | value ordered => simpa [Branch.close] using ordered
  | table ascending _ each =>
      rw [Branch.close]
      exact ordered_closeEntries ascending each
  | @tables earlier last ascending _ each =>
      have items : closeTables earlier ++ [.table (closeEntries last)] =
          (earlier ++ [last]).map fun entries => .table (closeEntries entries) := by
        rw [closeTables_eq, List.map_append, List.map_singleton]
      rw [Branch.close, items]
      refine .array fun item member => ?_
      obtain ⟨entries, inside, rfl⟩ := List.mem_map.1 member
      exact ordered_closeEntries (ascending entries inside) (each entries inside)

theorem Branches.Ordered.close {entries : Branches} (ordered : Branches.Ordered entries) :
    (Value.table (closeEntries entries)).Ordered :=
  ordered_closeEntries ordered.ascending fun entry member => (ordered.each entry member).close

/-! ## Reading values -/

section Scalars

variable {sign : Option Sign} {text : List Char} {value : Value}

theorem isScalar_of_basedInteger? {base : Base} (read : basedInteger? base text = some value) :
    value.IsScalar := by
  unfold basedInteger? at read
  split at read
  · cases read
    trivial
  · cases read

theorem isScalar_of_decimalInteger? (read : decimalInteger? sign text = some value) :
    value.IsScalar := by
  unfold decimalInteger? at read
  split at read
  · cases read
  · split at read
    · cases read
      trivial
    · cases read

theorem isScalar_of_float? (read : float? sign text = some value) : value.IsScalar := by
  unfold float? at read
  split at read
  · obtain ⟨magnitude, _, rfl⟩ := Option.map_eq_some_iff.1 read
    trivial
  · cases read

theorem isScalar_of_decimal? (read : decimal? sign text = some value) : value.IsScalar := by
  unfold decimal? at read
  split at read
  · exact isScalar_of_decimalInteger? read
  · repeat' split at read
    · cases read
    · obtain ⟨moment, _, rfl⟩ := Option.map_eq_some_iff.1 read
      trivial
    · cases read
    · exact isScalar_of_float? read
    · exact isScalar_of_decimalInteger? read
    · cases read

theorem isScalar_of_signedScalar? (read : signedScalar? sign text = some value) :
    value.IsScalar := by
  unfold signedScalar? at read
  repeat' split at read
  · cases read
    trivial
  · cases read
    trivial
  · exact isScalar_of_decimal? read

/-- An unquoted text stands for a value without others in it. -/
theorem isScalar_of_scalar? (read : scalar? text = some value) : value.IsScalar := by
  unfold scalar? at read
  repeat' split at read
  · cases read
    trivial
  · cases read
    trivial
  · exact isScalar_of_basedInteger? read
  · exact isScalar_of_decimal? read
  · exact isScalar_of_signedScalar? read

end Scalars

theorem ordered_of_word? {text rest : List Char} {value : Value}
    (read : word? text = some (value, rest)) : value.Ordered := by
  obtain ⟨found, scalar, made⟩ := Option.map_eq_some_iff.1 read
  cases made
  exact .scalar (isScalar_of_scalar? scalar)

/-- The values that are read in a number of steps are in order. -/
def ReadsOrdered (budget : Nat) : Prop :=
  ∀ {depth : Nat} {text rest : List Char} {value : Value},
    value? depth budget text = some (value, rest) → value.Ordered

/-- So are the items that are read in a number of steps. -/
def ReadsOrderedItems (budget : Nat) : Prop :=
  ∀ {depth : Nat} {text rest : List Char} {items : List Value},
    items? depth budget text = some (items, rest) → ∀ item ∈ items, item.Ordered

/-- Entries that are read in a number of steps keep the order of the table that they fill. -/
def KeepsOrder (budget : Nat) : Prop :=
  ∀ {depth : Nat} {entries result : Branches} {text rest : List Char}, Branches.Ordered entries →
    entries? depth entries budget text = some (result, rest) → Branches.Ordered result

section Step

variable {budget : Nat}

theorem readsOrdered_succ (lists : ReadsOrderedItems budget) (tables : KeepsOrder budget) :
    ReadsOrdered (budget + 1) := by
  intro depth text rest value read
  unfold value? at read
  split at read
  next =>
    obtain ⟨_, _, read⟩ := Option.bind_eq_some_iff.1 read
    obtain ⟨⟨items, _⟩, inside, made⟩ := Option.bind_eq_some_iff.1 read
    cases made
    exact .array (lists inside)
  next =>
    obtain ⟨_, _, read⟩ := Option.bind_eq_some_iff.1 read
    obtain ⟨⟨entries, _⟩, inside, made⟩ := Option.bind_eq_some_iff.1 read
    cases made
    exact (tables Branches.ordered_nil inside).close
  next =>
    obtain ⟨_, _, made⟩ := Option.map_eq_some_iff.1 read
    cases made
    exact .scalar trivial
  next =>
    obtain ⟨_, _, made⟩ := Option.map_eq_some_iff.1 read
    cases made
    exact .scalar trivial
  next => exact ordered_of_word? read

theorem readsOrderedItems_succ (values : ReadsOrdered budget) (lists : ReadsOrderedItems budget) :
    ReadsOrderedItems (budget + 1) := by
  intro depth text rest items read
  unfold items? at read
  obtain ⟨text, _, read⟩ := Option.bind_eq_some_iff.1 read
  split at read
  next =>
    cases read
    simp
  next =>
    obtain ⟨⟨head, _⟩, first, read⟩ := Option.bind_eq_some_iff.1 read
    obtain ⟨_, _, read⟩ := Option.bind_eq_some_iff.1 read
    split at read
    next =>
      obtain ⟨⟨others, _⟩, behind, made⟩ := Option.bind_eq_some_iff.1 read
      cases made
      exact List.forall_mem_cons.2 ⟨values first, lists behind⟩
    next =>
      cases read
      exact List.forall_mem_singleton.2 (values first)
    next => cases read

theorem keepsOrder_succ (values : ReadsOrdered budget) (tables : KeepsOrder budget) :
    KeepsOrder (budget + 1) := by
  intro depth entries result text rest ordered read
  unfold entries? at read
  obtain ⟨text, _, read⟩ := Option.bind_eq_some_iff.1 read
  split at read
  next =>
    cases read
    exact ordered
  next =>
    obtain ⟨⟨path, _⟩, _, read⟩ := Option.bind_eq_some_iff.1 read
    obtain ⟨_, _, read⟩ := Option.bind_eq_some_iff.1 read
    split at read
    next =>
      obtain ⟨_, _, read⟩ := Option.bind_eq_some_iff.1 read
      obtain ⟨⟨value, _⟩, found, read⟩ := Option.bind_eq_some_iff.1 read
      obtain ⟨filled, assigned, read⟩ := Option.bind_eq_some_iff.1 read
      obtain ⟨_, _, read⟩ := Option.bind_eq_some_iff.1 read
      have more := Branches.assign_ordered ordered (values found) assigned
      split at read
      next => exact tables more read
      next =>
        cases read
        exact more
      next => cases read
    next => cases read

end Step

/-- Values, items and entries that are read are in order. -/
theorem readsOrdered (budget : Nat) :
    ReadsOrdered budget ∧ ReadsOrderedItems budget ∧ KeepsOrder budget := by
  -- each reader calls the others with one step less
  induction budget with
  | zero =>
      refine ⟨fun read => ?_, fun read => ?_, fun _ read => ?_⟩
      · cases read
      · cases read
      · cases read
  | succ budget ih =>
      obtain ⟨values, lists, tables⟩ := ih
      exact ⟨readsOrdered_succ lists tables, readsOrderedItems_succ values lists,
        keepsOrder_succ values tables⟩

/-! ## Lines and documents -/

/-- The value of a pair is in order. -/
def Line.Ordered : Line → Prop
  | .pair _ value => value.Ordered
  | _ => True

theorem ordered_of_pair? {text rest : List Char} {path : KeyPath} {value : Value}
    (read : pair? text = some ((path, value), rest)) : value.Ordered := by
  unfold pair? at read
  obtain ⟨_, _, read⟩ := Option.bind_eq_some_iff.1 read
  split at read
  next =>
    obtain ⟨⟨found, _⟩, inside, made⟩ := Option.bind_eq_some_iff.1 read
    cases made
    exact (readsOrdered _).1 inside
  next => cases read

theorem ordered_of_line? {text rest : List Char} {line : Line}
    (read : line? text = some (line, rest)) : line.Ordered := by
  unfold line? at read
  split at read
  next =>
    split at read
    · cases read
      trivial
    · cases read
  next =>
    split at read
    · cases read
      trivial
    · cases read
  next =>
    obtain ⟨⟨⟨path, value⟩, _⟩, found, made⟩ := Option.map_eq_some_iff.1 read
    cases made
    exact ordered_of_pair? found

theorem ordered_of_lines? {budget : Nat} {text : List Char} {lines : List Line}
    (read : lines? budget text = some lines) : ∀ line ∈ lines, line.Ordered := by
  fun_induction lines? budget text generalizing lines with
  | case1 =>
      cases read
      simp
  | case2 => cases read
  | case3 _ _ _ _ _ ih => exact ih read
  | case4 _ _ _ _ ih =>
      obtain ⟨⟨line, _⟩, first, read⟩ := Option.bind_eq_some_iff.1 read
      obtain ⟨rest, _, read⟩ := Option.bind_eq_some_iff.1 read
      obtain ⟨others, behind, made⟩ := Option.bind_eq_some_iff.1 read
      cases made
      exact List.forall_mem_cons.2 ⟨ordered_of_line? first, ih rest behind⟩

/-- A line keeps the order of the tables. -/
theorem Draft.add_ordered {draft next : Draft} {line : Line}
    (ordered : Branches.Ordered draft.entries) (inside : line.Ordered)
    (added : draft.add line = some next) : Branches.Ordered next.entries := by
  cases line with
  | table path =>
      obtain ⟨entries, opened, rfl⟩ := Option.map_eq_some_iff.1 added
      exact Branches.openTable_ordered ordered opened
  | element path =>
      obtain ⟨entries, opened, rfl⟩ := Option.map_eq_some_iff.1 added
      exact Branches.openElement_ordered ordered opened
  | pair path value =>
      obtain ⟨entries, assigned, rfl⟩ := Option.map_eq_some_iff.1 added
      exact Branches.assignBelow_ordered ordered inside assigned

/-- So do all lines of a document. -/
theorem Draft.addAll_ordered {lines : List Line} {draft last : Draft}
    (ordered : Branches.Ordered draft.entries) (inside : ∀ line ∈ lines, line.Ordered)
    (added : lines.foldlM Draft.add draft = some last) : Branches.Ordered last.entries := by
  induction lines generalizing draft with
  | nil =>
      cases added
      exact ordered
  | cons line rest ih =>
      obtain ⟨first, others⟩ := List.forall_mem_cons.1 inside
      obtain ⟨next, one, more⟩ := Option.bind_eq_some_iff.1 added
      exact ih (Draft.add_ordered ordered first one) others more

/-- The entries of every table of a document are in ascending order of their keys. -/
theorem document?_ordered {text : String} {entries : List (String × Value)}
    (read : document? text = some entries) : (Value.table entries).Ordered := by
  unfold document? at read
  obtain ⟨lines, split, read⟩ := Option.bind_eq_some_iff.1 read
  obtain ⟨draft, filled, made⟩ := Option.bind_eq_some_iff.1 read
  cases made
  exact (Draft.addAll_ordered Branches.ordered_nil (ordered_of_lines? split) filled).close

end ShadowLint.Toml
