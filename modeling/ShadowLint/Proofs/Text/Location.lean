import ShadowLint.Text.LineTable

/-!
# Locations by reading from the start

`walk` reads a text character by character and keeps count of the rows and columns, without
a table.  `location_eq_walk_and_increases` says that a locator, which searches a table of line
starts and counts on from the start of the line, finds the very same places, and that later
characters stand at later places.

The walk and the table meet in `Reached`: what has been read splits into finished lines and
the current one, and the entries of the table up to there end with the start of the latter.
One character keeps this (`Reached.behind`), so a walk does (`Reached.walk`).
-/

namespace ShadowLint.Text

/-- A line ends with a line feed, or with a carriage return that no line feed follows. -/
def EndsLine (c : Char) (rest : List Char) : Prop :=
  c = '\n' ∨ c = '\r' ∧ rest.head? ≠ some '\n'

instance (c : Char) (rest : List Char) : Decidable (EndsLine c rest) :=
  inferInstanceAs (Decidable (_ ∨ _))

/-- The place behind a character that stands at `place`, when `rest` follows it. -/
def SourceLocation.behind (place : SourceLocation) (c : Char) (rest : List Char) :
    SourceLocation :=
  if EndsLine c rest then ⟨place.row + 1, 1⟩ else ⟨place.row, place.column + 1⟩

/-- The place that is reached from `place` by reading `before`, when `after` follows it. -/
def walk (place : SourceLocation) : (before after : List Char) → SourceLocation
  | [], _ => place
  | c :: rest, after => walk (place.behind c (rest ++ after)) rest after

/-- The order of places: by rows, and within a row by columns. -/
def SourceLocation.Precedes (one other : SourceLocation) : Prop :=
  one.row < other.row ∨ one.row = other.row ∧ one.column < other.column

/-- A character of the text begins or the text ends at a byte offset. -/
def IsBoundary (text : String) (offset : Nat) : Prop :=
  ∃ before after : String, text = before ++ after ∧ before.utf8ByteSize = offset

/-! ## Bytes -/

theorem byteLength_append (one other : List Char) :
    byteLength (one ++ other) = byteLength one + byteLength other := by
  induction one with
  | nil => rw [List.nil_append, byteLength, Nat.zero_add]
  | cons c rest ih => rw [List.cons_append, byteLength, byteLength, ih, Nat.add_assoc]

theorem byteLength_ofList (text : List Char) :
    (String.ofList text).utf8ByteSize = byteLength text := by
  induction text with
  | nil => rfl
  | cons c rest ih =>
      have split : String.ofList (c :: rest) = String.singleton c ++ String.ofList rest := by
        rw [String.singleton_eq_ofList, ← String.ofList_append, List.singleton_append]
      rw [split, String.utf8ByteSize_append, String.utf8ByteSize_singleton, ih, byteLength]

theorem byteLength_toList (text : String) : byteLength text.toList = text.utf8ByteSize := by
  rw [← byteLength_ofList, String.ofList_toList]

theorem dropBytes_append (head rest : List Char) :
    dropBytes (byteLength head) (head ++ rest) = rest := by
  induction head with
  | nil =>
      cases rest with
      | nil => rfl
      | cons c rest => rfl
  | cons c head ih =>
      have pos : 0 < c.utf8Size := c.utf8Size_pos
      have nonzero : c.utf8Size + byteLength head ≠ 0 := by omega
      rw [byteLength, List.cons_append, dropBytes, if_neg nonzero, Nat.add_sub_cancel_left, ih]

theorem charCount?_append (line rest : List Char) :
    charCount? (byteLength line) (line ++ rest) = some line.length := by
  induction line with
  | nil =>
      cases rest with
      | nil => rfl
      | cons c rest => rfl
  | cons c line ih =>
      have pos : 0 < c.utf8Size := c.utf8Size_pos
      have nonzero : c.utf8Size + byteLength line ≠ 0 := by omega
      have fits : c.utf8Size ≤ c.utf8Size + byteLength line := Nat.le_add_right _ _
      rw [byteLength, List.cons_append, charCount?, if_neg nonzero, if_pos fits,
        Nat.add_sub_cancel_left, ih, Option.map_some, List.length_cons]

/-! ## The table of line starts -/

/-- The table by single characters: a carriage return in front of a line feed adds nothing. -/
theorem lineStartsFrom_cons (offset : Nat) (c : Char) (rest : List Char) :
    lineStartsFrom offset (c :: rest) =
      if EndsLine c rest then
        (offset + c.utf8Size) :: lineStartsFrom (offset + c.utf8Size) rest
      else lineStartsFrom (offset + c.utf8Size) rest := by
  have feed : '\n'.utf8Size = 1 := rfl
  have ret : '\r'.utf8Size = 1 := rfl
  by_cases pair : c = '\r' ∧ rest.head? = some '\n'
  · obtain ⟨rfl, follows⟩ := pair
    obtain ⟨text, rfl⟩ := List.head?_eq_some_iff.1 follows
    have goesOn : ¬ EndsLine '\r' ('\n' :: text) := by simp [EndsLine]
    rw [if_neg goesOn, ret, lineStartsFrom, lineStartsFrom, if_pos (Or.inl rfl)]
    simp
  · have alone : ∀ text, c = '\r' → rest = '\n' :: text → False := by
      rintro text rfl rfl
      exact pair ⟨rfl, rfl⟩
    rw [lineStartsFrom]
    · by_cases ends : c = '\n' ∨ c = '\r'
      · have endsLine : EndsLine c rest :=
          ends.imp_right fun isReturn => ⟨isReturn, fun follows => pair ⟨isReturn, follows⟩⟩
        have size : c.utf8Size = 1 := by
          rcases ends with rfl | rfl
          · exact feed
          · exact ret
        rw [if_pos ends, if_pos endsLine, size]
      · have goesOn : ¬ EndsLine c rest := fun endsLine => ends (endsLine.imp_right And.left)
        rw [if_neg ends, if_neg goesOn]
    · exact alone

theorem lt_of_mem_lineStartsFrom {offset start : Nat} {text : List Char}
    (member : start ∈ lineStartsFrom offset text) : offset < start := by
  induction text generalizing offset with
  | nil => cases member
  | cons c rest ih =>
      have pos : 0 < c.utf8Size := c.utf8Size_pos
      rw [lineStartsFrom_cons] at member
      split at member
      · rcases List.mem_cons.1 member with rfl | later
        · omega
        · have := ih later
          omega
      · have := ih member
        omega

/-- Halving finds the boundary between the entries up to `x` and those beyond it. -/
theorem countUpTo_eq {a : Array Nat} {x : Nat} {low high : List Nat}
    (split : a.toList = low ++ high) (upTo : ∀ y ∈ low, y ≤ x) (beyond : ∀ y ∈ high, x < y)
    {lo hi : Nat} (bound : hi ≤ a.size) (le : lo ≤ low.length) (ge : low.length ≤ hi) :
    countUpTo a x lo hi bound = low.length := by
  have entry (i : Nat) (inside : i < a.size) : a[i] ≤ x ↔ i < low.length := by
    have found : (low ++ high)[i]? = some a[i] := by
      rw [← split, Array.getElem?_toList, Array.getElem?_eq_getElem inside]
    constructor
    · intro small
      refine Nat.lt_of_not_le fun outside => ?_
      rw [List.getElem?_append_right outside] at found
      have large := beyond _ (List.mem_of_getElem? found)
      omega
    · intro small
      rw [List.getElem?_append_left small] at found
      exact upTo _ (List.mem_of_getElem? found)
  fun_induction countUpTo a x lo hi bound with
  | case1 lo hi bound inside middle small ih => exact ih ((entry _ middle).1 small) ge
  | case2 lo hi bound inside middle large ih =>
      rw [entry] at large
      exact ih le (by omega)
  | case3 lo hi bound outside => omega

/-! ## Reading along -/

/-- Reading `seen` leads to `place`, and `after` follows.  The last entry of the table up to
there is the start of the line on which `place` lies. -/
def Reached (seen after : List Char) (place : SourceLocation) : Prop :=
  ∃ (finished line : List Char) (starts : List Nat),
    seen = finished ++ line ∧
    lineStarts (seen ++ after) = starts ++ lineStartsFrom (byteLength seen) after ∧
    starts.getLast? = some (byteLength finished) ∧
    (∀ start ∈ starts, start ≤ byteLength seen) ∧
    place = ⟨starts.length, line.length + 1⟩

theorem reached_start (text : List Char) : Reached [] text ⟨1, 1⟩ := by
  refine ⟨[], [], [0], rfl, rfl, rfl, ?_, rfl⟩
  intro start member
  rw [List.mem_singleton.1 member]
  exact Nat.zero_le _

theorem Reached.behind {seen after : List Char} {place : SourceLocation} {c : Char}
    (reached : Reached seen (c :: after) place) :
    Reached (seen ++ [c]) after (place.behind c after) := by
  obtain ⟨finished, line, starts, rfl, table, last, upTo, rfl⟩ := reached
  have length : byteLength (finished ++ line ++ [c]) =
      byteLength (finished ++ line) + c.utf8Size := by
    rw [byteLength_append, byteLength, byteLength, Nat.add_zero]
  rw [lineStartsFrom_cons] at table
  rw [SourceLocation.behind]
  by_cases ends : EndsLine c after
  · -- the table has an entry right behind the character
    rw [if_pos ends] at table
    rw [if_pos ends]
    refine ⟨finished ++ line ++ [c], [], starts ++ [byteLength (finished ++ line) + c.utf8Size],
      (List.append_nil _).symm, ?_, ?_, ?_, ?_⟩
    · rw [List.append_assoc _ [c], List.singleton_append, table, length, List.append_assoc,
        List.singleton_append]
    · rw [List.getLast?_concat, length]
    · intro start member
      rw [length]
      rcases List.mem_append.1 member with old | new
      · exact Nat.le_add_right_of_le (upTo start old)
      · exact Nat.le_of_eq (List.mem_singleton.1 new)
    · rw [List.length_append, List.length_singleton, List.length_nil]
  · rw [if_neg ends] at table
    rw [if_neg ends]
    refine ⟨finished, line ++ [c], starts, List.append_assoc _ _ _, ?_, last, ?_, ?_⟩
    · rw [List.append_assoc _ [c], List.singleton_append, table, length]
    · intro start member
      rw [length]
      exact Nat.le_add_right_of_le (upTo start member)
    · rw [List.length_append, List.length_singleton]

theorem Reached.walk {seen before after : List Char} {place : SourceLocation}
    (reached : Reached seen (before ++ after) place) :
    Reached (seen ++ before) after (walk place before after) := by
  induction before generalizing seen place with
  | nil =>
      rw [List.append_nil]
      exact reached
  | cons c rest ih =>
      have next := ih reached.behind
      rw [List.append_assoc, List.singleton_append] at next
      exact next

/-- An offset that splits the table is in the row that counts the entries in front of the split. -/
theorem rowOf_of_table {text : String} {starts later : List Nat} {offset : Nat}
    (table : lineStarts text.toList = starts ++ later) (upTo : ∀ start ∈ starts, start ≤ offset)
    (beyond : ∀ start ∈ later, offset < start) :
    (Locator.ofText text).rowOf offset = starts.length := by
  refine countUpTo_eq table upTo beyond _ (Nat.zero_le _) ?_
  have all := congrArg List.length table
  rw [List.length_append] at all
  change starts.length ≤ (lineStarts text.toList).length
  omega

theorem getElem?_of_table {text : List Char} {starts later : List Nat} {start : Nat}
    (table : lineStarts text = starts ++ later) (last : starts.getLast? = some start) :
    (lineStarts text)[starts.length - 1]? = some start := by
  rw [List.getLast?_eq_getElem?] at last
  rw [table, List.getElem?_append_left (List.getElem?_eq_some_iff.1 last).1, last]

theorem getD_starts {text : String} {row start : Nat}
    (stands : (lineStarts text.toList)[row]? = some start) :
    (Locator.ofText text).starts.getD row 0 = start := by
  change (lineStarts text.toList).toArray.getD row 0 = start
  rw [Array.getD_eq_getD_getElem?, List.getElem?_toArray, stands]
  rfl

/-- An offset that splits the table lies on the line that begins at the last entry in front of the
split, in the row that counts these entries. -/
theorem location_eq_of_table {text : String} {finished rest : List Char} {starts later : List Nat}
    {offset clamped : Nat} (split : text.toList = finished ++ rest)
    (table : lineStarts text.toList = starts ++ later)
    (last : starts.getLast? = some (byteLength finished))
    (upTo : ∀ start ∈ starts, start ≤ clamped) (beyond : ∀ start ∈ later, clamped < start)
    (same : clamped = min offset (byteLength text.toList)) :
    (Locator.ofText text).location offset =
      ⟨starts.length, (charCount? (clamped - byteLength finished) rest).getD
        (clamped - byteLength finished) + 1⟩ := by
  have clamp : (Locator.ofText text).clamp offset = clamped := same.symm
  have row : (Locator.ofText text).rowOf clamped = starts.length :=
    rowOf_of_table table upTo beyond
  have start : (Locator.ofText text).starts.getD (starts.length - 1) 0 = byteLength finished :=
    getD_starts (getElem?_of_table table last)
  have line : dropBytes (byteLength finished) (Locator.ofText text).text = rest := by
    change dropBytes (byteLength finished) text.toList = rest
    rw [split, dropBytes_append]
  unfold Locator.location
  rw [clamp]
  dsimp only
  rw [row, start, line]

/-- The locator finds the place that reading leads to. -/
theorem Reached.location_eq {text : String} {before after : List Char} {place : SourceLocation}
    (reached : Reached before after place) (split : text.toList = before ++ after) {offset : Nat}
    (clamped : byteLength before = min offset (byteLength text.toList)) :
    (Locator.ofText text).location offset = place := by
  obtain ⟨finished, line, starts, rfl, table, last, upTo, rfl⟩ := reached
  rw [← split] at table
  rw [List.append_assoc] at split
  have column : byteLength (finished ++ line) - byteLength finished = byteLength line := by
    rw [byteLength_append, Nat.add_sub_cancel_left]
  rw [location_eq_of_table split table last upTo
    (fun start member => lt_of_mem_lineStartsFrom member) clamped, column, charCount?_append]
  rfl

theorem location_eq_walk {text before after : String} (split : text = before ++ after)
    {offset : Nat} (clamped : before.utf8ByteSize = min offset text.utf8ByteSize) :
    (Locator.ofText text).location offset = walk ⟨1, 1⟩ before.toList after.toList := by
  have characters : text.toList = before.toList ++ after.toList := by
    rw [split, String.toList_append]
  have reached := (reached_start (before.toList ++ after.toList)).walk
  rw [List.nil_append] at reached
  refine reached.location_eq characters ?_
  rw [byteLength_toList, byteLength_toList, clamped]

/-! ## The order of places -/

theorem SourceLocation.Precedes.trans {one other third : SourceLocation}
    (first : one.Precedes other) (second : other.Precedes third) : one.Precedes third := by
  unfold Precedes at *
  omega

theorem SourceLocation.precedes_behind (place : SourceLocation) (c : Char) (rest : List Char) :
    place.Precedes (place.behind c rest) := by
  unfold behind
  split
  · exact Or.inl (Nat.lt_succ_self place.row)
  · exact Or.inr ⟨rfl, Nat.lt_succ_self place.column⟩

theorem precedes_walk {before : List Char} (some : before ≠ []) (place : SourceLocation)
    (after : List Char) : place.Precedes (walk place before after) := by
  induction before generalizing place with
  | nil => exact absurd rfl some
  | cons c rest ih =>
      have first := place.precedes_behind c (rest ++ after)
      by_cases last : rest = []
      · subst last
        exact first
      · exact first.trans (ih last _)

theorem walk_append (place : SourceLocation) (one other after : List Char) :
    walk place (one ++ other) after = walk (walk place one (other ++ after)) other after := by
  induction one generalizing place with
  | nil => rfl
  | cons c rest ih => rw [List.cons_append, walk, walk, ih, List.append_assoc]

/-- Of two ways to cut a list, the one that leaves no fewer bytes in front goes no less far. -/
theorem exists_further {before after before' after' : List Char}
    (same : before ++ after = before' ++ after') (le : byteLength before ≤ byteLength before') :
    ∃ between, before' = before ++ between ∧ after = between ++ after' := by
  rcases List.append_eq_append_iff.1 same with ⟨between, longer, rest⟩ | ⟨between, longer, rest⟩
  · exact ⟨between, longer, rest⟩
  · cases between with
    | nil =>
        rw [List.append_nil] at longer
        exact ⟨[], by rw [longer, List.append_nil], rest.symm⟩
    | cons c between =>
        have pos : 0 < c.utf8Size := c.utf8Size_pos
        rw [longer, byteLength_append, byteLength] at le
        omega

/-- Of two ways to cut a list, the one that leaves more bytes in front goes further. -/
theorem exists_between {before after before' after' : List Char}
    (same : before ++ after = before' ++ after') (less : byteLength before < byteLength before') :
    ∃ between, between ≠ [] ∧ before' = before ++ between ∧ after = between ++ after' := by
  obtain ⟨between, longer, rest⟩ := exists_further same (Nat.le_of_lt less)
  refine ⟨between, ?_, longer, rest⟩
  rintro rfl
  rw [longer, List.append_nil] at less
  exact absurd less (Nat.lt_irrefl _)

/-- The locator agrees with a plain reading of the text from its start, for every offset that is
at a character's begin or at the text's end when it is cut down to the text.  Offsets of different
characters have different places, in the order of the offsets. -/
theorem location_eq_walk_and_increases (text : String) :
    (∀ (offset : UInt32) (before after : String), text = before ++ after →
      before.utf8ByteSize = min offset.toNat text.utf8ByteSize →
      (Locator.ofText text).location offset.toNat =
        walk ⟨1, 1⟩ before.toList after.toList) ∧
    ∀ one other : UInt32, IsBoundary text one.toNat → IsBoundary text other.toNat →
      one < other →
      ((Locator.ofText text).location one.toNat).Precedes
        ((Locator.ofText text).location other.toNat) := by
  refine ⟨fun offset before after split clamped => location_eq_walk split clamped, ?_⟩
  intro one other boundary boundaryOther less
  obtain ⟨before, after, split, size⟩ := boundary
  obtain ⟨before', after', split', size'⟩ := boundaryOther
  have clamped : before.utf8ByteSize = min one.toNat text.utf8ByteSize := by
    rw [split, String.utf8ByteSize_append]
    omega
  have clamped' : before'.utf8ByteSize = min other.toNat text.utf8ByteSize := by
    rw [split', String.utf8ByteSize_append]
    omega
  have same : before.toList ++ after.toList = before'.toList ++ after'.toList := by
    rw [← String.toList_append, ← String.toList_append, ← split, ← split']
  have shorter : byteLength before.toList < byteLength before'.toList := by
    rw [byteLength_toList, byteLength_toList, size, size']
    exact UInt32.lt_iff_toNat_lt.1 less
  obtain ⟨between, some, further, rest⟩ := exists_between same shorter
  rw [location_eq_walk split clamped, location_eq_walk split' clamped', further, walk_append, rest]
  exact precedes_walk some _ _

/-- A text with the three kinds of line ends and a character of two bytes. -/
def mixedLines : String := "a\r\né\rb\n"

/-- Between the two characters of a line end the column goes on, past the end of the text the
place is that of its end, and the second line is further down than its line end. -/
theorem location_around_line_ends :
    (mixedLines = "a\r" ++ "\né\rb\n" ∧
      "a\r".utf8ByteSize = min (2 : UInt32).toNat mixedLines.utf8ByteSize ∧
      (Locator.ofText mixedLines).location (2 : UInt32).toNat = ⟨1, 3⟩) ∧
    (mixedLines = mixedLines ++ "" ∧
      mixedLines.utf8ByteSize = min (42 : UInt32).toNat mixedLines.utf8ByteSize ∧
      (Locator.ofText mixedLines).location (42 : UInt32).toNat = ⟨4, 1⟩) ∧
    IsBoundary mixedLines (2 : UInt32).toNat ∧ IsBoundary mixedLines (5 : UInt32).toNat ∧
      ((Locator.ofText mixedLines).location (2 : UInt32).toNat).Precedes
        ((Locator.ofText mixedLines).location (5 : UInt32).toNat) := by
  have inside : mixedLines = "a\r" ++ "\né\rb\n" := rfl
  have size : "a\r".utf8ByteSize = min (2 : UInt32).toNat mixedLines.utf8ByteSize := by decide
  have whole : mixedLines = mixedLines ++ "" := rfl
  have clamped : mixedLines.utf8ByteSize = min (42 : UInt32).toNat mixedLines.utf8ByteSize := by
    decide
  have boundary : IsBoundary mixedLines (2 : UInt32).toNat := ⟨"a\r", "\né\rb\n", rfl, by decide⟩
  have boundary' : IsBoundary mixedLines (5 : UInt32).toNat :=
    ⟨"a\r\né", "\rb\n", rfl, by decide⟩
  obtain ⟨walked, ordered⟩ := location_eq_walk_and_increases mixedLines
  refine ⟨⟨inside, size, ?_⟩, ⟨whole, clamped, ?_⟩, boundary, boundary', ?_⟩
  · rw [walked 2 _ _ inside size]
    decide
  · rw [walked 42 _ _ whole clamped]
    decide
  · exact ordered 2 5 boundary boundary' (by decide)

end ShadowLint.Text
