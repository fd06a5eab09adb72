import ShadowLint.Lint.Message
import ShadowLint.Proofs.Text.Location

/-!
# The order of locations

Columns count characters, but an offset inside a character has a column that counts bytes.  So a
later offset can have an earlier location than one inside a character: it does where the line has
fewer characters in front of the later offset than bytes in front of the earlier one
(`RunsBack`).  `location_atMost_iff` says that this is the only way: rows never run back, and
locations do so exactly where `RunsBack` holds.

The line of an offset is what the table of line starts says it is (`LineOf`).  Offsets of different
lines are ordered by their rows; on one line both columns come from the same characters, and the
order is a matter of `charCount?` alone.
-/

namespace ShadowLint.Text

/-- The order of places in which a place also stands up to itself. -/
def SourceLocation.AtMost (one other : SourceLocation) : Prop :=
  one.row < other.row ∨ one.row = other.row ∧ one.column ≤ other.column

instance (one other : SourceLocation) : Decidable (one.AtMost other) :=
  inferInstanceAs (Decidable (_ ∨ _))

/-- The offset `other` is at the end of some characters `line` of a line that begins behind
`finished`.  The offset `one` is inside a character, and more bytes of that line stand in front of
it than there are characters in `line`. -/
inductive RunsBack (text : String) (one other : Nat) : Prop
  | mk {finished line after : String} :
      text = finished ++ line ++ after →
      (finished ++ line).utf8ByteSize = min other text.utf8ByteSize →
      (walk ⟨1, 1⟩ (finished ++ line).toList after.toList).column = line.length + 1 →
      ¬ IsBoundary text (min one text.utf8ByteSize) →
      finished.utf8ByteSize + line.length < min one text.utf8ByteSize →
      RunsBack text one other

/-! ## Counting characters -/

theorem length_le_byteLength (text : List Char) : text.length ≤ byteLength text := by
  induction text with
  | nil => exact Nat.le_refl 0
  | cons c rest ih =>
      have pos : 0 < c.utf8Size := c.utf8Size_pos
      rw [List.length_cons, byteLength]
      omega

/-- The characters of the first bytes are counted where these bytes are whole characters. -/
theorem charCount?_eq_some_iff {n k : Nat} {text : List Char} :
    charCount? n text = some k ↔
      ∃ line after, text = line ++ after ∧ byteLength line = n ∧ line.length = k := by
  constructor
  · intro counted
    induction text generalizing n k with
    | nil =>
        rw [charCount?] at counted
        split at counted
        · next zero =>
            cases counted
            exact ⟨[], [], rfl, zero.symm, rfl⟩
        · cases counted
    | cons c rest ih =>
        rw [charCount?] at counted
        split at counted
        · next zero =>
            cases counted
            exact ⟨[], c :: rest, rfl, zero.symm, rfl⟩
        · split at counted
          · next fits =>
              obtain ⟨count, others, rfl⟩ := Option.map_eq_some_iff.1 counted
              obtain ⟨line, after, rfl, bytes, rfl⟩ := ih others
              refine ⟨c :: line, after, rfl, ?_, rfl⟩
              rw [byteLength, bytes]
              omega
          · cases counted
  · rintro ⟨line, after, rfl, rfl, rfl⟩
    exact charCount?_append line after

/-- There are no more characters than bytes. -/
theorem le_of_charCount?_eq_some {n k : Nat} {text : List Char}
    (counted : charCount? n text = some k) : k ≤ n := by
  obtain ⟨line, after, rfl, rfl, rfl⟩ := charCount?_eq_some_iff.1 counted
  exact length_le_byteLength line

/-- More bytes have no fewer characters. -/
theorem charCount?_mono {n m k l : Nat} {text : List Char} (le : n ≤ m)
    (first : charCount? n text = some k) (second : charCount? m text = some l) : k ≤ l := by
  obtain ⟨line, after, rfl, rfl, rfl⟩ := charCount?_eq_some_iff.1 first
  obtain ⟨further, rest, same, rfl, rfl⟩ := charCount?_eq_some_iff.1 second
  obtain ⟨between, rfl, _⟩ := exists_further same le
  rw [List.length_append]
  exact Nat.le_add_right _ _

/-- What the column of an offset counts, `n` bytes behind the start of its line: characters, or
bytes where the offset is inside a character. -/
def columnBehind (n : Nat) (line : List Char) : Nat := (charCount? n line).getD n

/-- Columns run back only from inside a character to the end of one. -/
theorem columnBehind_lt_iff {n m : Nat} (le : n ≤ m) (line : List Char) :
    columnBehind m line < columnBehind n line ↔
      charCount? n line = none ∧ ∃ count, charCount? m line = some count ∧ count < n := by
  unfold columnBehind
  cases first : charCount? n line with
  | none =>
      cases second : charCount? m line with
      | none => simp [le]
      | some count => simp
  | some k =>
      have few := le_of_charCount?_eq_some first
      cases second : charCount? m line with
      | none =>
          simp only [Option.getD_some, Option.getD_none, reduceCtorEq, false_and, iff_false]
          omega
      | some l =>
          have grown := charCount?_mono le first second
          simp only [Option.getD_some, reduceCtorEq, false_and, iff_false]
          omega

/-! ## The line of an offset -/

theorem pairwise_lineStartsFrom (offset : Nat) (text : List Char) :
    (lineStartsFrom offset text).Pairwise (· < ·) := by
  induction text generalizing offset with
  | nil => exact .nil
  | cons c rest ih =>
      rw [lineStartsFrom_cons]
      split
      · exact List.pairwise_cons.2 ⟨fun start member => lt_of_mem_lineStartsFrom member, ih _⟩
      · exact ih _

/-- Lines start one behind the other. -/
theorem pairwise_lineStarts (text : List Char) : (lineStarts text).Pairwise (· < ·) :=
  List.pairwise_cons.2
    ⟨fun _ member => lt_of_mem_lineStartsFrom member, pairwise_lineStartsFrom 0 text⟩

theorem exists_of_mem_lineStartsFrom {offset start : Nat} {text : List Char}
    (member : start ∈ lineStartsFrom offset text) :
    ∃ finished rest, text = finished ++ rest ∧ start = offset + byteLength finished := by
  induction text generalizing offset with
  | nil => cases member
  | cons c rest ih =>
      have later : start ∈ lineStartsFrom (offset + c.utf8Size) rest →
          ∃ finished after, c :: rest = finished ++ after ∧
            start = offset + byteLength finished := by
        intro member
        obtain ⟨finished, after, rfl, rfl⟩ := ih member
        exact ⟨c :: finished, after, rfl, by rw [byteLength, Nat.add_assoc]⟩
      rw [lineStartsFrom_cons] at member
      split at member
      · rcases List.mem_cons.1 member with rfl | member
        · exact ⟨[c], rest, rfl, rfl⟩
        · exact later member
      · exact later member

/-- A line starts with a whole character. -/
theorem exists_of_mem_lineStarts {start : Nat} {text : List Char}
    (member : start ∈ lineStarts text) :
    ∃ finished rest, text = finished ++ rest ∧ start = byteLength finished := by
  rcases List.mem_cons.1 member with rfl | member
  · exact ⟨[], text, rfl, rfl⟩
  · obtain ⟨finished, rest, split, same⟩ := exists_of_mem_lineStartsFrom member
    exact ⟨finished, rest, split, same.trans (Nat.zero_add _)⟩

/-- The line of an offset begins behind `finished`, with the characters of `rest`.  The table of
line starts is cut at the offset into `starts` and `later`, and the line begins at the last of the
former. -/
structure LineOf (text : List Char) (offset : Nat) (finished rest : List Char)
    (starts later : List Nat) : Prop where
  split : text = finished ++ rest
  table : lineStarts text = starts ++ later
  last : starts.getLast? = some (byteLength finished)
  upTo : ∀ start ∈ starts, start ≤ offset
  beyond : ∀ start ∈ later, offset < start

/-- An ascending list is cut by any number. -/
theorem exists_cut {entries : List Nat} (ascending : entries.Pairwise (· < ·)) (x : Nat) :
    ∃ low high, entries = low ++ high ∧ (∀ y ∈ low, y ≤ x) ∧ ∀ y ∈ high, x < y := by
  induction entries with
  | nil => exact ⟨[], [], rfl, by simp, by simp⟩
  | cons first rest ih =>
      obtain ⟨less, others⟩ := List.pairwise_cons.1 ascending
      by_cases small : first ≤ x
      · obtain ⟨low, high, rfl, upTo, beyond⟩ := ih others
        exact ⟨first :: low, high, rfl, List.forall_mem_cons.2 ⟨small, upTo⟩, beyond⟩
      · refine ⟨[], first :: rest, rfl, by simp, ?_⟩
        intro y member
        rcases List.mem_cons.1 member with rfl | member
        · exact Nat.lt_of_not_le small
        · exact Nat.lt_trans (Nat.lt_of_not_le small) (less y member)

theorem exists_lineOf (text : List Char) (offset : Nat) :
    ∃ finished rest starts later, LineOf text offset finished rest starts later := by
  obtain ⟨starts, later, table, upTo, beyond⟩ := exists_cut (pairwise_lineStarts text) offset
  -- the first line starts at zero, so the cut is not in front of all entries
  have some : starts ≠ [] := by
    rintro rfl
    have first : 0 ∈ later := by
      rw [← List.nil_append later, ← table]
      exact List.mem_cons_self
    exact absurd (beyond 0 first) (Nat.not_lt_zero offset)
  have member : starts.getLast some ∈ lineStarts text := by
    rw [table]
    exact List.mem_append_left _ (List.getLast_mem some)
  obtain ⟨finished, rest, split, same⟩ := exists_of_mem_lineStarts member
  exact ⟨finished, rest, starts, later, split, table,
    same ▸ List.getLast?_eq_some_getLast some, upTo, beyond⟩

namespace LineOf

variable {text : List Char} {offset : Nat} {finished rest : List Char} {starts later : List Nat}

theorem begin_le (line : LineOf text offset finished rest starts later) :
    byteLength finished ≤ offset :=
  line.upTo _ (List.mem_of_getLast? line.last)

/-- The entries up to an offset are no later than the start of its line. -/
theorem starts_le (line : LineOf text offset finished rest starts later) :
    ∀ start ∈ starts, start ≤ byteLength finished := by
  intro start member
  have ascending := pairwise_lineStarts text
  rw [line.table] at ascending
  have sorted := (List.pairwise_append.1 ascending).1
  obtain ⟨front, rfl⟩ := List.getLast?_eq_some_iff.1 line.last
  rcases List.mem_append.1 member with early | last
  · exact Nat.le_of_lt ((List.pairwise_append.1 sorted).2.2 start early _ List.mem_cons_self)
  · exact Nat.le_of_eq (List.mem_singleton.1 last)

/-- Offsets from the start of a line on are on this line, up to any that is on it. -/
theorem of_le (line : LineOf text offset finished rest starts later) {other : Nat}
    (begins : byteLength finished ≤ other) (le : other ≤ offset) :
    LineOf text other finished rest starts later :=
  ⟨line.split, line.table, line.last,
    fun start member => Nat.le_trans (line.starts_le start member) begins,
    fun start member => Nat.lt_of_le_of_lt le (line.beyond start member)⟩

/-- Offsets in front of a line are in earlier rows. -/
theorem length_lt (line : LineOf text offset finished rest starts later) {other : Nat}
    {finished' rest' : List Char} {starts' later' : List Nat}
    (early : LineOf text other finished' rest' starts' later')
    (less : other < byteLength finished) : starts'.length < starts.length := by
  have absent : byteLength finished ∉ starts' := fun member =>
    absurd (early.upTo _ member) (Nat.not_le.2 less)
  have same := early.table.symm.trans line.table
  rcases List.append_eq_append_iff.1 same with ⟨between, longer, _⟩ | ⟨between, longer, _⟩
  · subst longer
    have some : between ≠ [] := by
      rintro rfl
      rw [List.append_nil] at line
      exact absent (List.mem_of_getLast? line.last)
    rw [List.length_append]
    exact Nat.lt_add_of_pos_right (List.length_pos_iff.2 some)
  · subst longer
    exact absurd (List.mem_append_left between (List.mem_of_getLast? line.last)) absent

end LineOf

theorem LineOf.location_eq {text : String} {offset clamped : Nat} {finished rest : List Char}
    {starts later : List Nat} (line : LineOf text.toList clamped finished rest starts later)
    (same : clamped = min offset text.utf8ByteSize) :
    (Locator.ofText text).location offset =
      ⟨starts.length, columnBehind (clamped - byteLength finished) rest + 1⟩ :=
  location_eq_of_table line.split line.table line.last line.upTo line.beyond
    (same.trans (by rw [byteLength_toList]))

/-- From the start of a line on, whole characters are counted up to exactly the offsets at which a
character begins or the text ends. -/
theorem exists_charCount?_iff {text : String} {finished rest : List Char} {offset : Nat}
    (split : text.toList = finished ++ rest) (begins : byteLength finished ≤ offset) :
    (∃ count, charCount? (offset - byteLength finished) rest = some count) ↔
      IsBoundary text offset := by
  constructor
  · rintro ⟨count, counted⟩
    obtain ⟨line, after, rfl, bytes, _⟩ := charCount?_eq_some_iff.1 counted
    refine ⟨String.ofList (finished ++ line), String.ofList after, ?_, ?_⟩
    · rw [← String.ofList_append, List.append_assoc, ← split, String.ofList_toList]
    · rw [byteLength_ofList, byteLength_append, bytes]
      omega
  · rintro ⟨before, after, rfl, rfl⟩
    rw [String.toList_append] at split
    rw [← byteLength_toList] at begins ⊢
    obtain ⟨line, further, rfl⟩ := exists_further split.symm begins
    refine ⟨line.length, charCount?_eq_some_iff.2 ⟨line, after.toList, rfl, ?_, rfl⟩⟩
    rw [further, byteLength_append, Nat.add_sub_cancel_left]

/-- The line of an offset is the one that has been read when the column says so. -/
theorem LineOf.eq_of_column {finished line after : String} {begun rest : List Char}
    {starts later : List Nat}
    (lineOf : LineOf (finished ++ line ++ after).toList (finished ++ line).utf8ByteSize begun rest
      starts later)
    (column : (walk ⟨1, 1⟩ (finished ++ line).toList after.toList).column = line.length + 1) :
    begun = finished.toList ∧ rest = line.toList ++ after.toList := by
  have clamped : (finished ++ line).utf8ByteSize =
      min (finished ++ line).utf8ByteSize (finished ++ line ++ after).utf8ByteSize := by
    rw [String.utf8ByteSize_append (s := finished ++ line)]
    omega
  have split := lineOf.split
  rw [String.toList_append] at split
  have begins := lineOf.begin_le
  rw [← byteLength_toList] at begins
  obtain ⟨between, read, onward⟩ := exists_further split.symm begins
  -- both ways to find the location give the column
  have counted : columnBehind ((finished ++ line).utf8ByteSize - byteLength begun) rest =
      between.length := by
    rw [← byteLength_toList, read, byteLength_append, Nat.add_sub_cancel_left, onward,
      columnBehind, charCount?_append]
    rfl
  have place := lineOf.location_eq clamped
  rw [location_eq_walk rfl clamped, counted] at place
  rw [place] at column
  have same : between.length = line.toList.length := by
    rw [String.length_toList]
    exact Nat.succ.inj column
  rw [String.toList_append] at read
  obtain ⟨first, second⟩ := List.append_inj' read same.symm
  exact ⟨first.symm, by rw [onward, second]⟩

/-- On the line of the later offset it is seen whether locations run back. -/
theorem LineOf.runsBack_iff {text : String} {one other : Nat} {finished rest : List Char}
    {starts later : List Nat}
    (lineOf : LineOf text.toList (min other text.utf8ByteSize) finished rest starts later) :
    RunsBack text one other ↔
      charCount? (min one text.utf8ByteSize - byteLength finished) rest = none ∧
        ∃ count, charCount? (min other text.utf8ByteSize - byteLength finished) rest = some count ∧
          count < min one text.utf8ByteSize - byteLength finished := by
  constructor
  · intro back
    cases back with
    | @mk finished line after split whole column inside more =>
        subst split
        rw [← whole] at lineOf ⊢
        obtain ⟨rfl, rfl⟩ := lineOf.eq_of_column column
        rw [← byteLength_toList finished] at more
        have begins : byteLength finished.toList ≤
          min one (finished ++ line ++ after).utf8ByteSize := by omega
        refine ⟨Option.eq_none_iff_forall_ne_some.2 fun count counted => ?_, ?_⟩
        · exact inside ((exists_charCount?_iff lineOf.split begins).1 ⟨count, counted⟩)
        · refine ⟨line.length,
            charCount?_eq_some_iff.2 ⟨line.toList, after.toList, rfl, ?_, ?_⟩, ?_⟩
          · rw [← byteLength_toList, String.toList_append, byteLength_append,
              Nat.add_sub_cancel_left]
          · exact String.length_toList
          · omega
  · rintro ⟨inside, count, counted, less⟩
    obtain ⟨line, after, rfl, bytes, rfl⟩ := charCount?_eq_some_iff.1 counted
    have begins := lineOf.begin_le
    have split : text = String.ofList finished ++ String.ofList line ++ String.ofList after := by
      rw [← String.ofList_append, ← String.ofList_append, List.append_assoc, ← lineOf.split,
        String.ofList_toList]
    have whole : (String.ofList finished ++ String.ofList line).utf8ByteSize =
        min other text.utf8ByteSize := by
      rw [← String.ofList_append, byteLength_ofList, byteLength_append, bytes]
      omega
    refine .mk split whole ?_ ?_ ?_
    · have place := lineOf.location_eq rfl
      rw [location_eq_walk split whole, columnBehind, counted] at place
      rw [place, String.length_ofList]
      rfl
    · intro boundary
      obtain ⟨count, known⟩ := (exists_charCount?_iff lineOf.split (by omega)).2 boundary
      rw [inside] at known
      cases known
    · rw [byteLength_ofList, String.length_ofList]
      omega

/-- Rows never run back, and locations only where `RunsBack` says so. -/
theorem location_atMost_iff (text : String) {one other : Nat} (le : one ≤ other) :
    ((Locator.ofText text).location one).row ≤ ((Locator.ofText text).location other).row ∧
      (((Locator.ofText text).location one).AtMost ((Locator.ofText text).location other) ↔
        ¬ RunsBack text one other) := by
  obtain ⟨finished, rest, starts, later, lineOf⟩ :=
    exists_lineOf text.toList (min other text.utf8ByteSize)
  have place := lineOf.location_eq rfl
  have clamped : min one text.utf8ByteSize ≤ min other text.utf8ByteSize := by omega
  by_cases begins : byteLength finished ≤ min one text.utf8ByteSize
  · -- on one line the columns decide
    have columns := columnBehind_lt_iff
      (Nat.sub_le_sub_right clamped (byteLength finished)) rest
    rw [place, (lineOf.of_le begins clamped).location_eq rfl, lineOf.runsBack_iff, ← columns]
    refine ⟨Nat.le_refl _, ?_⟩
    simp [SourceLocation.AtMost]
  · obtain ⟨finished', rest', starts', later', early⟩ :=
      exists_lineOf text.toList (min one text.utf8ByteSize)
    have rows := lineOf.length_lt early (Nat.lt_of_not_le begins)
    have forward : ¬ RunsBack text one other := by
      rw [lineOf.runsBack_iff]
      rintro ⟨-, count, -, less⟩
      omega
    rw [place, early.location_eq rfl]
    exact ⟨Nat.le_of_lt rows, ⟨fun _ => forward, fun _ => .inl rows⟩⟩

/-- Of two offsets in order the later one never has the earlier row.  It has the earlier location
exactly where the other one is inside a character of the same line, and the line has fewer
characters in front of the later offset than bytes in front of the earlier one; the ends of a
message about a text are located alike. -/
theorem locations_in_order_unless_runsBack (text : String) :
    (∀ one other : UInt32, one ≤ other →
      ((Locator.ofText text).location one.toNat).row ≤
          ((Locator.ofText text).location other.toNat).row ∧
        (((Locator.ofText text).location one.toNat).AtMost
            ((Locator.ofText text).location other.toNat) ↔
          ¬ RunsBack text one.toNat other.toNat)) ∧
    ∀ (diagnostic : Lint.Diagnostic) (filename : String), ∃ start stop,
      (Lint.Message.ofDiagnostic diagnostic filename (some (.ofText text))).start = some start ∧
      (Lint.Message.ofDiagnostic diagnostic filename (some (.ofText text))).stop = some stop ∧
      start.row ≤ stop.row ∧
      (start.AtMost stop ↔
        ¬ RunsBack text diagnostic.range.start.toNat diagnostic.range.stop.toNat) := by
  have ordered : ∀ one other : UInt32, one ≤ other → one.toNat ≤ other.toNat :=
    fun one other => UInt32.le_iff_toNat_le.1
  refine ⟨fun one other le => location_atMost_iff text (ordered one other le), ?_⟩
  intro diagnostic filename
  exact ⟨_, _, rfl, rfl, location_atMost_iff text (ordered _ _ diagnostic.range.start_le_stop)⟩

/-- Two characters of two bytes each. -/
def twoAccents : String := "éé"

/-- Out of the second of two characters the locations run back to the end of the text, and into it
from the first one they do not. -/
theorem locations_in_order_in_twoAccents :
    ((1 : UInt32) ≤ 3 ∧
      ((Locator.ofText twoAccents).location (1 : UInt32).toNat).AtMost
        ((Locator.ofText twoAccents).location (3 : UInt32).toNat) ∧
      ¬ RunsBack twoAccents (1 : UInt32).toNat (3 : UInt32).toNat) ∧
    (3 : UInt32) ≤ 4 ∧
      ¬ ((Locator.ofText twoAccents).location (3 : UInt32).toNat).AtMost
        ((Locator.ofText twoAccents).location (4 : UInt32).toNat) ∧
      RunsBack twoAccents (3 : UInt32).toNat (4 : UInt32).toNat := by
  obtain ⟨ordered, _⟩ := locations_in_order_unless_runsBack twoAccents
  have first : (1 : UInt32) ≤ 3 := by decide
  have second : (3 : UInt32) ≤ 4 := by decide
  have forward : ((Locator.ofText twoAccents).location (1 : UInt32).toNat).AtMost
      ((Locator.ofText twoAccents).location (3 : UInt32).toNat) := by decide +kernel
  have back : ¬ ((Locator.ofText twoAccents).location (3 : UInt32).toNat).AtMost
      ((Locator.ofText twoAccents).location (4 : UInt32).toNat) := by decide +kernel
  refine ⟨⟨first, forward, (ordered 1 3 first).2.1 forward⟩, second, back, ?_⟩
  exact Classical.not_not.1 fun forward => back ((ordered 3 4 second).2.2 forward)

/-- The location of an offset inside a character can lie behind that of the character's end, and so
can the locations of the two ends of a message. -/
theorem location_behind_later_location :
    (3 : UInt32) ≤ 4 ∧
      (Locator.ofText twoAccents).location (3 : UInt32).toNat = ⟨1, 4⟩ ∧
      (Locator.ofText twoAccents).location (4 : UInt32).toNat = ⟨1, 3⟩ ∧
      ¬ SourceLocation.AtMost ⟨1, 4⟩ ⟨1, 3⟩ ∧
      (Lint.Message.ofDiagnostic ⟨"ShadowedVariable", "", ⟨3, 4, by decide⟩⟩ "f.json"
        (some (.ofText twoAccents))).start = some ⟨1, 4⟩ ∧
      (Lint.Message.ofDiagnostic ⟨"ShadowedVariable", "", ⟨3, 4, by decide⟩⟩ "f.json"
        (some (.ofText twoAccents))).stop = some ⟨1, 3⟩ := by
  decide +kernel

end ShadowLint.Text
