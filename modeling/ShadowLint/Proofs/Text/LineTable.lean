import ShadowLint.Proofs.Text.Bytes
import ShadowLint.Proofs.Text.Order

/-!
# The table of line starts

The table is made from the characters of a text, and it is the same that a scan of the bytes makes
(`lineStarts_eq_scanBytes`): no byte of a longer character looks like a line's end.  Cut at the
entries of the table, a text falls into its lines (`exists_cutAt_lineStarts`), each with the end
that it has; and an offset is looked up on the line that it is in (`exists_looksUp`).

Lines are found from the end of the text: a character in front of a text either is a line that it
ends itself or belongs to the first line of that text (`exists_lines`).
-/

namespace ShadowLint.Text

/-! ## Scanning bytes -/

/-- The offsets behind the bytes that end a line, when the bytes begin at `offset`.  A line feed
ends a line, and so does a carriage return unless the byte behind it is a line feed. -/
def scanBytes (offset : Nat) : List UInt8 → List Nat
  | [] => []
  | byte :: rest =>
      if byte = 10 ∨ byte = 13 ∧ rest.head? ≠ some 10 then
        (offset + 1) :: scanBytes (offset + 1) rest
      else scanBytes (offset + 1) rest

/-- A character is a single byte below 128, or all its bytes are from 128 on. -/
theorem encodeChar_small_or_large (c : Char) :
    c.val.toNat < 128 ∧ String.utf8EncodeChar c = [c.val.toUInt8] ∨
      ∀ byte ∈ String.utf8EncodeChar c, 128 ≤ byte.toNat := by
  by_cases small : c.val ≤ 127
  · refine .inl ⟨Nat.lt_succ_of_le (UInt32.le_iff_toNat_le.1 small), ?_⟩
    exact String.utf8EncodeChar_eq_singleton (Char.utf8Size_eq_one_iff.2 small)
  · have large : ¬ c.val.toNat ≤ 127 := fun le => small (UInt32.le_iff_toNat_le.2 le)
    right
    unfold String.utf8EncodeChar
    generalize c.val.toNat = v at large ⊢
    dsimp only
    rw [if_neg large]
    split_ifs <;> simp <;> omega

theorem toUInt8_eq_iff {c d : Char} (smallC : c.val.toNat < 128) (smallD : d.val.toNat < 128) :
    c.val.toUInt8 = d.val.toUInt8 ↔ c = d := by
  rw [← UInt8.toNat_inj, UInt32.toNat_toUInt8, UInt32.toNat_toUInt8, Char.ext_iff,
    ← UInt32.toNat_inj]
  omega

/-- The bytes of a text begin with a line feed when the text does. -/
theorem head?_encode_iff (text : List Char) :
    (text.flatMap String.utf8EncodeChar).head? = some 10 ↔ text.head? = some '\n' := by
  cases text with
  | nil => simp
  | cons c rest =>
      rw [List.flatMap_cons, List.head?_cons, Option.some.injEq]
      rcases encodeChar_small_or_large c with ⟨small, single⟩ | large
      · rw [single, List.singleton_append, List.head?_cons, Option.some.injEq]
        exact toUInt8_eq_iff small (d := '\n') (by decide)
      · obtain ⟨lead, trail, split⟩ := List.exists_cons_of_ne_nil (@String.utf8EncodeChar_ne_nil c)
        rw [split] at large
        have least := large lead List.mem_cons_self
        rw [split, List.cons_append, List.head?_cons, Option.some.injEq]
        constructor
        · rintro rfl
          exact absurd least (by decide)
        · rintro rfl
          cases split
          exact absurd least (by decide)

/-- Large bytes end no line. -/
theorem scanBytes_large {bytes : List UInt8} (large : ∀ byte ∈ bytes, 128 ≤ byte.toNat)
    (offset : Nat) (rest : List UInt8) :
    scanBytes offset (bytes ++ rest) = scanBytes (offset + bytes.length) rest := by
  induction bytes generalizing offset with
  | nil => rfl
  | cons byte others ih =>
      obtain ⟨first, more⟩ := List.forall_mem_cons.1 large
      have goesOn : ¬ (byte = 10 ∨ byte = 13 ∧ (others ++ rest).head? ≠ some 10) := by
        rintro (rfl | ⟨rfl, _⟩) <;> exact absurd first (by decide)
      rw [List.cons_append, scanBytes, if_neg goesOn, ih more, List.length_cons]
      congr 1
      omega

theorem lineStartsFrom_eq_scanBytes (offset : Nat) (text : List Char) :
    lineStartsFrom offset text = scanBytes offset (text.flatMap String.utf8EncodeChar) := by
  induction text generalizing offset with
  | nil => rfl
  | cons c rest ih =>
      have size := String.length_utf8EncodeChar c
      rw [lineStartsFrom_cons, List.flatMap_cons, ih]
      rcases encodeChar_small_or_large c with ⟨small, single⟩ | large
      · have feed : c.val.toUInt8 = 10 ↔ c = '\n' := toUInt8_eq_iff small (d := '\n') (by decide)
        have back : c.val.toUInt8 = 13 ↔ c = '\r' := toUInt8_eq_iff small (d := '\r') (by decide)
        have ends : EndsLine c rest ↔ c.val.toUInt8 = 10 ∨
            c.val.toUInt8 = 13 ∧ (rest.flatMap String.utf8EncodeChar).head? ≠ some 10 := by
          rw [feed, back, Ne, head?_encode_iff, EndsLine]
        rw [single] at size
        rw [single, List.singleton_append, scanBytes, ← size]
        exact if_congr ends rfl rfl
      · have goesOn : ¬ EndsLine c rest := by
          rintro (rfl | ⟨rfl, _⟩) <;> exact absurd (large _ List.mem_cons_self) (by decide)
        rw [if_neg goesOn, scanBytes_large large, size]

/-- The table that is made from the characters is the one that is made from the bytes. -/
theorem lineStarts_eq_scanBytes (text : String) :
    lineStarts text.toList = 0 :: scanBytes 0 (bytes text) := by
  rw [lineStarts, lineStartsFrom_eq_scanBytes, bytes_eq]

/-! ## Lines and their ends -/

/-- What ends a line in front of `rest`. -/
inductive LineEnd : (stop rest : List Char) → Prop
  | feed {rest : List Char} : LineEnd ['\n'] rest
  | returnFeed {rest : List Char} : LineEnd ['\r', '\n'] rest
  | loneReturn {rest : List Char} : rest.head? ≠ some '\n' → LineEnd ['\r'] rest

/-- A text in which no line ends. -/
def Unbroken (text : List Char) : Prop := '\n' ∉ text ∧ '\r' ∉ text

/-- The lines of a text: each but the last has one end, behind characters that end none, and the
last has no end. -/
inductive Lines : List Char → List (List Char) → Prop
  | last {text : List Char} : Unbroken text → Lines text [text]
  | ended {body stop rest : List Char} {lines : List (List Char)} :
      Unbroken body → LineEnd stop rest → Lines rest lines →
      Lines (body ++ stop ++ rest) ((body ++ stop) :: lines)

theorem Unbroken.cons {c : Char} {text : List Char} (unbroken : Unbroken text) (notFeed : c ≠ '\n')
    (notReturn : c ≠ '\r') : Unbroken (c :: text) :=
  ⟨List.not_mem_cons_of_ne_of_not_mem notFeed.symm unbroken.1,
    List.not_mem_cons_of_ne_of_not_mem notReturn.symm unbroken.2⟩

theorem unbroken_nil : Unbroken [] := ⟨List.not_mem_nil, List.not_mem_nil⟩

namespace Lines

variable {c : Char} {text line : List Char} {lines others : List (List Char)}

theorem flatten_eq (cut : Lines text lines) : lines.flatten = text := by
  induction cut with
  | last _ => simp
  | ended _ _ _ ih => rw [List.flatten_cons, ih]

/-- A character that ends a line is a line of its own. -/
theorem cons_ending (cut : Lines text lines) (ends : EndsLine c text) :
    Lines (c :: text) ([c] :: lines) := by
  rcases ends with rfl | ⟨rfl, alone⟩
  · exact .ended unbroken_nil .feed cut
  · exact .ended unbroken_nil (.loneReturn alone) cut

/-- Any other character belongs to the line behind it. -/
theorem cons_going (cut : Lines text (line :: others)) (goesOn : ¬ EndsLine c text) :
    Lines (c :: text) ((c :: line) :: others) := by
  rw [EndsLine, not_or] at goesOn
  obtain ⟨notFeed, inFront⟩ := goesOn
  by_cases isReturn : c = '\r'
  · -- the carriage return stands in front of a line feed, which is the whole line behind it
    subst isReturn
    have follows : text.head? = some '\n' := by simpa using inFront
    cases cut with
    | last unbroken => exact absurd (List.mem_of_head? follows) unbroken.1
    | @ended body stop rest _ unbroken stops cut =>
        cases body with
        | cons first body =>
            have same : first = '\n' := by simpa using follows
            exact absurd (same ▸ List.mem_cons_self) unbroken.1
        | nil =>
            cases stops with
            | feed => exact .ended unbroken_nil .returnFeed cut
            | returnFeed => simp at follows
            | loneReturn _ => simp at follows
  · cases cut with
    | last unbroken => exact .last (unbroken.cons notFeed isReturn)
    | ended unbroken stops cut => exact .ended (unbroken.cons notFeed isReturn) stops cut

end Lines

/-! ## Cutting a text -/

/-- The bytes at which pieces begin that stand one behind the other from byte `offset` on. -/
def beginsFrom (offset : Nat) : List (List Char) → List Nat
  | [] => []
  | piece :: rest => offset :: beginsFrom (offset + byteLength piece) rest

/-- Pieces that make up a text and begin at the given bytes. -/
structure CutAt (text : List Char) (starts : List Nat) (pieces : List (List Char)) : Prop where
  whole : pieces.flatten = text
  begins : beginsFrom 0 pieces = starts

/-- Two ways to cut a text are the same if they leave as many bytes in front. -/
theorem append_inj_of_byteLength {before after before' after' : List Char}
    (same : before ++ after = before' ++ after')
    (size : byteLength before = byteLength before') : before = before' ∧ after = after' := by
  have behind : after = after' := by
    rw [← dropBytes_append before after, same, size, dropBytes_append]
  subst behind
  exact ⟨List.append_cancel_right same, rfl⟩

theorem eq_of_beginsFrom {pieces others : List (List Char)} (offset : Nat)
    (same : pieces.flatten = others.flatten)
    (begins : beginsFrom offset pieces = beginsFrom offset others) : pieces = others := by
  induction pieces generalizing others offset with
  | nil =>
      cases others with
      | nil => rfl
      | cons other others => simp [beginsFrom] at begins
  | cons piece rest ih =>
      cases others with
      | nil => simp [beginsFrom] at begins
      | cons other others =>
          simp only [beginsFrom, List.cons.injEq, true_and] at begins
          rw [List.flatten_cons, List.flatten_cons] at same
          -- where a piece follows, it begins behind the same number of bytes
          cases rest with
          | nil =>
              cases others with
              | nil => simpa using same
              | cons next _ => simp [beginsFrom] at begins
          | cons next further =>
              cases others with
              | nil => simp [beginsFrom] at begins
              | cons next' further' =>
                  have size : byteLength piece = byteLength other :=
                    Nat.add_left_cancel (List.cons.inj begins).1
                  obtain ⟨rfl, behind⟩ := append_inj_of_byteLength same size
                  rw [ih _ behind begins]

theorem CutAt.unique {text : List Char} {starts : List Nat} {pieces others : List (List Char)}
    (cut : CutAt text starts pieces) (cutToo : CutAt text starts others) : pieces = others :=
  eq_of_beginsFrom 0 (cut.whole.trans cutToo.whole.symm) (cut.begins.trans cutToo.begins.symm)

/-- The lines of a text behind the first begin where the table says. -/
theorem exists_lines (offset : Nat) (text : List Char) :
    ∃ line others, Lines text (line :: others) ∧
      lineStartsFrom offset text = beginsFrom (offset + byteLength line) others := by
  induction text generalizing offset with
  | nil => exact ⟨[], [], .last unbroken_nil, rfl⟩
  | cons c rest ih =>
      obtain ⟨line, others, cut, begins⟩ := ih (offset + c.utf8Size)
      rw [lineStartsFrom_cons]
      by_cases ends : EndsLine c rest
      · refine ⟨[c], line :: others, cut.cons_ending ends, ?_⟩
        rw [if_pos ends, begins]
        rfl
      · refine ⟨c :: line, others, cut.cons_going ends, ?_⟩
        rw [if_neg ends, begins, byteLength, Nat.add_assoc]

/-- Cut at the table a text falls into its lines. -/
theorem exists_cutAt_lineStarts (text : List Char) :
    ∃ lines, CutAt text (lineStarts text) lines ∧ Lines text lines := by
  obtain ⟨line, others, cut, begins⟩ := exists_lines 0 text
  exact ⟨line :: others, ⟨cut.flatten_eq, by rw [lineStarts, begins, beginsFrom]⟩, cut⟩

/-! ## Looking an offset up -/

/-- What a search for a number in ascending entries answers: the position where it stands, or else
the one at which it would have to be inserted. -/
inductive Finds (entries : List Nat) (x : Nat) : Except Nat Nat → Prop
  | here {position : Nat} : entries[position]? = some x → Finds entries x (.ok position)
  | between {low high : List Nat} : entries = low ++ high → (∀ y ∈ low, y < x) →
      (∀ y ∈ high, x < y) → Finds entries x (.error low.length)

/-- A byte offset is behind the first byte of a character and in front of its end, so the character
takes several bytes. -/
def InsideCharacter (text : String) (offset : Nat) : Prop :=
  ∃ before c after, text.toList = before ++ c :: after ∧ byteLength before < offset ∧
    offset < byteLength before + c.utf8Size

/-- What looking an offset up comes to: its line begins at `start`, which is in the table at the
position `row`. -/
structure LooksUp (text : String) (offset row start : Nat) : Prop where
  row_eq : (Locator.ofText text).rowOf offset = row + 1
  stands : (lineStarts text.toList)[row]? = some start
  le : start ≤ offset
  greatest : ∀ other ∈ lineStarts text.toList, other ≤ offset → other ≤ start
  /-- Where the offset itself is not in the table, a search answers the position behind the line's,
  which is never the first one. -/
  answer : ∀ answer, Finds (lineStarts text.toList) offset answer ↔
    answer = if start = offset then .ok row else .error (row + 1)
  /-- From the start of the line to the offset there are whole characters, or else the offset is
  inside of one. -/
  countsBytes : charCount? (offset - start) (dropBytes start text.toList) = none ↔
    InsideCharacter text offset

/-- Every offset in a text is in front of a character or behind them all, or inside a character. -/
theorem exists_cut_or_inside {text : List Char} {offset : Nat} (le : offset ≤ byteLength text) :
    (∃ before after, text = before ++ after ∧ byteLength before = offset) ∨
      ∃ before c after, text = before ++ c :: after ∧ byteLength before < offset ∧
        offset < byteLength before + c.utf8Size := by
  induction text generalizing offset with
  | nil => exact .inl ⟨[], [], rfl, (Nat.le_zero.1 le).symm⟩
  | cons c rest ih =>
      rw [byteLength] at le
      rcases Nat.eq_zero_or_pos offset with rfl | positive
      · exact .inl ⟨[], c :: rest, rfl, rfl⟩
      · by_cases inside : offset < c.utf8Size
        · exact .inr ⟨[], c, rest, rfl, positive, by rwa [byteLength, Nat.zero_add]⟩
        · rcases @ih (offset - c.utf8Size) (by omega) with
            ⟨before, after, rfl, size⟩ | ⟨before, d, after, rfl, above, below⟩
          · exact .inl ⟨c :: before, after, rfl, by rw [byteLength, size]; omega⟩
          · refine .inr ⟨c :: before, d, after, rfl, ?_, ?_⟩ <;> rw [byteLength] <;> omega

theorem insideCharacter_iff {text : String} {offset : Nat} (le : offset ≤ text.utf8ByteSize) :
    InsideCharacter text offset ↔ ¬ IsBoundary text offset := by
  constructor
  · rintro ⟨before, c, after, split, above, below⟩ ⟨front, back, rfl, rfl⟩
    rw [String.toList_append] at split
    rw [← byteLength_toList] at above below
    obtain ⟨between, some, further, rest⟩ := exists_between split.symm above
    cases between with
    | nil => exact some rfl
    | cons d between =>
        obtain ⟨rfl, _⟩ := List.cons.inj rest
        rw [further, byteLength_append, byteLength] at below
        omega
  · intro inside
    rw [← byteLength_toList] at le
    rcases exists_cut_or_inside le with ⟨before, after, split, size⟩ | found
    · refine absurd ⟨String.ofList before, String.ofList after, ?_, ?_⟩ inside
      · rw [← String.ofList_append, ← split, String.ofList_toList]
      · rw [byteLength_ofList, size]
    · exact found

namespace LineOf

variable {text : String} {offset : Nat} {finished rest : List Char} {starts later : List Nat}

theorem rowOf_eq (line : LineOf text.toList offset finished rest starts later) :
    (Locator.ofText text).rowOf offset = starts.length :=
  rowOf_of_table line.table line.upTo line.beyond

theorem length_pos (line : LineOf text.toList offset finished rest starts later) :
    0 < starts.length :=
  List.length_pos_of_mem (List.mem_of_getLast? line.last)

/-- No line that starts up to the offset starts later than its line. -/
theorem greatest (line : LineOf text.toList offset finished rest starts later) :
    ∀ other ∈ lineStarts text.toList, other ≤ offset → other ≤ byteLength finished := by
  intro other member le
  rw [line.table] at member
  rcases List.mem_append.1 member with early | late
  · exact line.starts_le other early
  · exact absurd (line.beyond other late) (Nat.not_lt.2 le)

/-- A search finds the line of an offset that the line begins at, and of any other the position
behind the line. -/
theorem finds_iff (line : LineOf text.toList offset finished rest starts later)
    {answer : Except Nat Nat} :
    Finds (lineStarts text.toList) offset answer ↔
      answer = if byteLength finished = offset then .ok (starts.length - 1)
        else .error starts.length := by
  have stands := getElem?_of_table line.table line.last
  constructor
  · intro finds
    cases finds with
    | here found =>
        have begins : byteLength finished = offset :=
          Nat.le_antisymm line.begin_le
            (line.greatest offset (List.mem_of_getElem? found) (Nat.le_refl offset))
        have distinct : (lineStarts text.toList).Nodup :=
          (pairwise_lineStarts text.toList).imp Nat.ne_of_lt
        rw [begins] at stands
        have same := (List.getElem?_inj (List.getElem?_eq_some_iff.1 found).1 distinct).1
          (found.trans stands.symm)
        rw [if_pos begins, same]
    | @between low high split below above =>
        have row : (Locator.ofText text).rowOf offset = low.length :=
          rowOf_of_table split (fun y member => Nat.le_of_lt (below y member)) above
        have apart : byteLength finished ≠ offset := by
          intro begins
          have member := List.mem_of_getElem? stands
          rw [begins, split] at member
          rcases List.mem_append.1 member with early | late
          · exact Nat.lt_irrefl _ (below _ early)
          · exact Nat.lt_irrefl _ (above _ late)
        rw [if_neg apart, ← row, line.rowOf_eq]
  · rintro rfl
    split
    next begins =>
      rw [begins] at stands
      exact .here stands
    next apart =>
      have before := Nat.lt_of_le_of_ne line.begin_le apart
      exact .between line.table
        (fun y member => Nat.lt_of_le_of_lt (line.starts_le y member) before) line.beyond

end LineOf

theorem exists_looksUp {text : String} {offset : Nat} (le : offset ≤ text.utf8ByteSize) :
    ∃ row start, LooksUp text offset row start := by
  obtain ⟨finished, rest, starts, later, line⟩ := exists_lineOf text.toList offset
  have behind : starts.length - 1 + 1 = starts.length := Nat.sub_add_cancel line.length_pos
  refine ⟨starts.length - 1, byteLength finished, line.rowOf_eq.trans behind.symm,
    getElem?_of_table line.table line.last, line.begin_le, line.greatest, fun answer => ?_, ?_⟩
  · rw [behind, line.finds_iff]
  · rw [line.split, dropBytes_append, insideCharacter_iff le,
      ← exists_charCount?_iff line.split line.begin_le, Option.eq_none_iff_forall_ne_some,
      not_exists]

/-- The location is in the row of the line that was found, and its column counts characters unless
the offset is inside one. -/
theorem LooksUp.location_eq {text : String} {offset row start : Nat}
    (up : LooksUp text (min offset text.utf8ByteSize) row start) :
    (Locator.ofText text).location offset =
      ⟨row + 1, (charCount? (min offset text.utf8ByteSize - start)
        (dropBytes start text.toList)).getD (min offset text.utf8ByteSize - start) + 1⟩ := by
  have clamp : (Locator.ofText text).clamp offset = min offset text.utf8ByteSize := by
    rw [← byteLength_toList]
    rfl
  unfold Locator.location
  rw [clamp]
  dsimp only
  rw [up.row_eq, Nat.add_sub_cancel, getD_starts up.stands]
  rfl

/-- The table of line starts begins with 0, ascends, and holds only places between characters of the
text, which are those that the bytes tell.  Cut there, and only so, the text falls into its lines.
Looking up an offset, which stands for the end if it is past it, finds the last line that starts up
to there, with the position of its start; bytes are counted only from there to the inside of a
character. -/
theorem table_cuts_lines_and_looks_up (text : String) :
    lineStarts text.toList = 0 :: scanBytes 0 (bytes text) ∧
    (lineStarts text.toList).Pairwise (· < ·) ∧
    (∀ start ∈ lineStarts text.toList, start ≤ text.utf8ByteSize ∧ IsBoundary text start) ∧
    (∃ lines, CutAt text.toList (lineStarts text.toList) lines ∧ Lines text.toList lines ∧
      ∀ pieces, CutAt text.toList (lineStarts text.toList) pieces → pieces = lines) ∧
    ∀ offset : UInt32, ∃ row start,
      LooksUp text (min offset.toNat text.utf8ByteSize) row start ∧
      (Locator.ofText text).location offset.toNat =
        ⟨row + 1,
          (charCount? (min offset.toNat text.utf8ByteSize - start)
            (dropBytes start text.toList)).getD
              (min offset.toNat text.utf8ByteSize - start) + 1⟩ := by
  refine ⟨lineStarts_eq_scanBytes text, pairwise_lineStarts text.toList, ?_, ?_, ?_⟩
  · intro start member
    obtain ⟨finished, rest, split, rfl⟩ := exists_of_mem_lineStarts member
    have whole : text = String.ofList finished ++ String.ofList rest := by
      rw [← String.ofList_append, ← split, String.ofList_toList]
    refine ⟨?_, String.ofList finished, String.ofList rest, whole, byteLength_ofList finished⟩
    rw [← byteLength_toList, split, byteLength_append]
    exact Nat.le_add_right _ _
  · obtain ⟨lines, cut, found⟩ := exists_cutAt_lineStarts text.toList
    exact ⟨lines, cut, found, fun pieces cutToo => cutToo.unique cut⟩
  · intro offset
    obtain ⟨row, start, up⟩ := exists_looksUp (Nat.min_le_right offset.toNat text.utf8ByteSize)
    exact ⟨row, start, up, up.location_eq⟩

/-- A text with a character of two bytes and two kinds of line ends. -/
def accentedLines : String := "é\r\nb\rc"

/-- The text has three lines.  The offset 1 is inside of the accented character, so that bytes are
counted in front of it; at the offset 5, that of the second carriage return, no line starts, and a
search for it answers the position behind the second line. -/
theorem table_cuts_and_looks_up_accentedLines :
    CutAt accentedLines.toList (lineStarts accentedLines.toList)
        [['é', '\r', '\n'], ['b', '\r'], ['c']] ∧
      Lines accentedLines.toList [['é', '\r', '\n'], ['b', '\r'], ['c']] ∧
      (0 ∈ lineStarts accentedLines.toList ∧ IsBoundary accentedLines 0) ∧
      InsideCharacter accentedLines 1 ∧
      charCount? 1 (dropBytes 0 accentedLines.toList) = none ∧
      Finds (lineStarts accentedLines.toList) 5 (.error 2) := by
  obtain ⟨_, _, places, ⟨lines, _, found, only⟩, look⟩ :=
    table_cuts_lines_and_looks_up accentedLines
  have cut : CutAt accentedLines.toList (lineStarts accentedLines.toList)
      [['é', '\r', '\n'], ['b', '\r'], ['c']] := ⟨by decide, by decide⟩
  have first : 0 ∈ lineStarts accentedLines.toList := by decide
  have inside : InsideCharacter accentedLines 1 :=
    ⟨[], 'é', ['\r', '\n', 'b', '\r', 'c'], by decide, by decide, by decide⟩
  have one : min (1 : UInt32).toNat accentedLines.utf8ByteSize = 1 := by decide
  have five : min (5 : UInt32).toNat accentedLines.utf8ByteSize = 5 := by decide
  have upToOne : ∀ start ∈ lineStarts accentedLines.toList, start ≤ 1 → start = 0 := by decide
  have absent : ∀ start ∈ lineStarts accentedLines.toList, start ≠ 5 := by decide
  obtain ⟨row, start, up, _⟩ := look 1
  rw [one] at up
  have begins : start = 0 := upToOne start (List.mem_of_getElem? up.stands) up.le
  obtain ⟨row', start', up', _⟩ := look 5
  rw [five] at up'
  have apart : start' ≠ 5 := absent start' (List.mem_of_getElem? up'.stands)
  have behind : row' + 1 = 2 := up'.row_eq.symm.trans (by decide +kernel)
  refine ⟨cut, (only _ cut).symm ▸ found, ⟨first, (places 0 first).2⟩, inside, ?_, ?_⟩
  · have counts := up.countsBytes.2 inside
    rwa [begins] at counts
  · rw [up'.answer, if_neg apart, behind]

end ShadowLint.Text
