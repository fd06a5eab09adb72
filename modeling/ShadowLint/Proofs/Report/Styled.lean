import ShadowLint.Proofs.Report.Text

/-!
# Coloured reports

A terminal reads a text as letters and styling sequences (`marks`).  Where no name and no body of
a message holds an escape character, the sequences in a coloured report are those that the report
puts around its pieces, whatever else the pieces hold.  So a report is read piece by piece
(`marks_written_append`), and what is said of a row of pieces carries over to it:

* its letters are the report without colours (`letters_pieces`);
* each sequence that sets a style is closed before the next one and before the line ends
  (`closed_pieces`);
* a terminal shows each piece in its own style and what comes behind it as if nothing stood in
  front (`shownFrom_pieces`).
-/

namespace ShadowLint.Report

open Lint (Message)

/-! ## What a terminal reads -/

/-- What a terminal reads: a letter to show, or the codes of a styling sequence. -/
inductive Mark where
  | letter (c : Char)
  | sequence (codes : List Char)
  deriving DecidableEq, Repr

/-- Whether a character stands between the bracket and the `m` of a styling sequence. -/
def isCode (c : Char) : Bool := c.isDigit || c = ';'

/-- The codes of the styling sequence that a text begins with, and what is behind it. -/
def sequence? : List Char → Option (List Char × List Char)
  | '\x1b' :: '[' :: text =>
      match text.dropWhile isCode with
      | 'm' :: rest => some (text.takeWhile isCode, rest)
      | _ => none
  | _ => none

theorem length_lt_of_sequence? {text codes rest : List Char}
    (found : sequence? text = some (codes, rest)) : rest.length < text.length := by
  unfold sequence? at found
  split at found
  next text =>
    split at found
    next behind ended =>
      obtain ⟨rfl, rfl⟩ := Prod.mk.inj (Option.some.inj found)
      have shorter := (List.dropWhile_suffix (l := text) isCode).length_le
      rw [ended, List.length_cons] at shorter
      rw [List.length_cons, List.length_cons]
      omega
    next => cases found
  next => cases found

/-- A text as a terminal reads it. -/
def marks (text : List Char) : List Mark :=
  match _ : sequence? text with
  | some (codes, rest) => .sequence codes :: marks rest
  | none =>
      match text with
      | [] => []
      | c :: rest => .letter c :: marks rest
termination_by text.length
decreasing_by
  · exact length_lt_of_sequence? ‹_›
  · exact Nat.lt_succ_self _

theorem marks_nil : marks [] = [] := by
  rw [marks]
  rfl

theorem marks_cons {c : Char} {rest : List Char} (letter : c ≠ '\x1b') :
    marks (c :: rest) = .letter c :: marks rest := by
  have none : sequence? (c :: rest) = none := by
    unfold sequence?
    split
    next same => exact absurd (List.cons.inj same).1 letter
    next => rfl
  rw [marks]
  split
  next found =>
    rw [none] at found
    cases found
  next => rfl

theorem marks_escapeSequence {codes rest : List Char} (each : ∀ c ∈ codes, isCode c = true) :
    marks (escapeSequence codes ++ rest) = .sequence codes :: marks rest := by
  have found : sequence? (escapeSequence codes ++ rest) = some (codes, rest) := by
    have taken : (codes ++ 'm' :: rest).takeWhile isCode = codes := by
      rw [List.takeWhile_append_of_pos each, List.takeWhile_cons_of_neg (by decide),
        List.append_nil]
    have dropped : (codes ++ 'm' :: rest).dropWhile isCode = 'm' :: rest := by
      rw [List.dropWhile_append_of_pos each, List.dropWhile_cons_of_neg (by decide)]
    simp only [escapeSequence, List.cons_append, List.append_assoc, List.nil_append, sequence?,
      dropped, taken]
  rw [marks]
  split
  next codes' rest' other =>
    rw [found] at other
    obtain ⟨rfl, rfl⟩ := Prod.mk.inj (Option.some.inj other)
    rfl
  next other =>
    rw [found] at other
    cases other

/-- Text without an escape character is read letter by letter. -/
theorem marks_append {text rest : List Char} (clean : '\x1b' ∉ text) :
    marks (text ++ rest) = text.map .letter ++ marks rest := by
  induction text with
  | nil => rfl
  | cons c text ih =>
      have letter : c ≠ '\x1b' := Ne.symm (List.ne_of_not_mem_cons clean)
      rw [List.cons_append, marks_cons letter, ih (List.not_mem_of_not_mem_cons clean),
        List.map_cons, List.cons_append]

/-- The letter that is read, if it is one. -/
def Mark.letter? : Mark → Option Char
  | .letter c => some c
  | .sequence _ => none

/-- A text without the styling sequences in it. -/
def unstyled (text : List Char) : List Char := (marks text).filterMap Mark.letter?

/-- Every sequence that sets a style is followed by letters only and then by a reset: no other
sequence comes before the reset, and the marks do not end before it. -/
inductive Closed : List Mark → Prop where
  | nil : Closed []
  | letter {c : Char} {rest : List Mark} : Closed rest → Closed (.letter c :: rest)
  | styled {codes letters : List Char} {rest : List Mark} (sets : codes ≠ ['0']) :
      Closed rest →
      Closed (.sequence codes :: (letters.map .letter ++ .sequence ['0'] :: rest))

/-! ## What a terminal shows -/

/-- The codes in force behind one more code; nothing and zero reset them. -/
def setCode (inForce : List (List Char)) (code : List Char) : List (List Char) :=
  if code = [] ∨ code = ['0'] then [] else inForce ++ [code]

/-- The codes in force behind a styling sequence. -/
def setCodes (inForce : List (List Char)) (codes : List Char) : List (List Char) :=
  (codes.splitOn ';').foldl setCode inForce

/-- The letters that a terminal shows, each with the codes in force there. -/
def shownFrom (inForce : List (List Char)) : List Mark → List (List (List Char) × Char)
  | [] => []
  | .letter c :: rest => (inForce, c) :: shownFrom inForce rest
  | .sequence codes :: rest => shownFrom (setCodes inForce codes) rest

/-- What a terminal shows of a text, if no code is in force before it. -/
def shown (text : List Char) : List (List (List Char) × Char) := shownFrom [] (marks text)

/-- The codes in force in a piece of text: those of its style, or none. -/
def styleCodes : Option Style → List (List Char)
  | some style => setCodes [] style.codes.toList
  | none => []

theorem setCodes_reset (inForce : List (List Char)) : setCodes inForce ['0'] = [] := rfl

theorem shownFrom_letters (inForce : List (List Char)) (letters : List Char) (rest : List Mark) :
    shownFrom inForce (letters.map .letter ++ rest) =
      letters.map (inForce, ·) ++ shownFrom inForce rest := by
  induction letters with
  | nil => rfl
  | cons c letters ih =>
      rw [List.map_cons, List.cons_append, shownFrom, ih, List.map_cons, List.cons_append]

/-- Text without an escape character is shown plain. -/
theorem shown_of_clean {text : List Char} (clean : '\x1b' ∉ text) :
    shown text = text.map ([], ·) := by
  have read : marks (text ++ []) = text.map .letter ++ marks [] := marks_append clean
  rw [List.append_nil, marks_nil] at read
  rw [shown, read, shownFrom_letters, shownFrom, List.append_nil]

/-! ## Pieces -/

/-- A piece of a report: a text, and the style that it has with colours. -/
structure Piece where
  style : Option Style
  text : String

namespace Piece

/-- The piece as it is written. -/
def written (colors : Bool) (piece : Piece) : String :=
  match piece.style with
  | some style => style.paint colors piece.text
  | none => piece.text

/-- What a terminal reads in the piece with colours. -/
def marks (piece : Piece) : List Mark :=
  match piece.style with
  | some style =>
      .sequence style.codes.toList :: (piece.text.toList.map .letter ++ [.sequence ['0']])
  | none => piece.text.toList.map .letter

/-- The letters of the piece in the style of the piece. -/
def shown (piece : Piece) : List (List (List Char) × Char) :=
  piece.text.toList.map (styleCodes piece.style, ·)

/-- No escape character is in the piece. -/
def Clean (piece : Piece) : Prop := '\x1b' ∉ piece.text.toList

end Piece

theorem restoreAfterResets_of_clean {sequence text : List Char} (clean : '\x1b' ∉ text) :
    restoreAfterResets sequence text = text := by
  fun_induction restoreAfterResets with
  | case1 rest ih => simp at clean
  | case2 c rest other ih => rw [ih (List.not_mem_of_not_mem_cons clean)]
  | case3 => rfl

theorem Style.isCode_of_mem_codes (style : Style) : ∀ c ∈ style.codes.toList, isCode c = true :=
  List.all_eq_true.1 (by cases style <;> decide)

theorem Style.codes_ne_reset (style : Style) : style.codes.toList ≠ ['0'] := by
  cases style <;> decide

section

variable {pieces : List Piece} {rest : List Mark}

theorem Piece.marks_written_append {piece : Piece} {behind : List Char} (clean : piece.Clean) :
    Report.marks ((piece.written true).toList ++ behind) = piece.marks ++ Report.marks behind := by
  unfold written Piece.marks
  cases piece.style with
  | none => exact marks_append clean
  | some style =>
      simp only [Style.paint, if_true]
      rw [String.toList_ofList, restoreAfterResets_of_clean clean,
        Style.sequence, resetSequence, List.append_assoc, List.append_assoc,
        marks_escapeSequence style.isCode_of_mem_codes, marks_append clean,
        marks_escapeSequence (List.forall_mem_singleton.2 rfl)]
      simp

/-- A row of pieces is read piece by piece. -/
theorem marks_written_append {behind : List Char} (clean : ∀ piece ∈ pieces, piece.Clean) :
    marks (pieces.flatMap (fun piece => (piece.written true).toList) ++ behind) =
      pieces.flatMap Piece.marks ++ marks behind := by
  induction pieces with
  | nil => rfl
  | cons piece pieces ih =>
      obtain ⟨first, others⟩ := List.forall_mem_cons.1 clean
      rw [List.flatMap_cons, List.append_assoc, Piece.marks_written_append first, ih others,
        List.flatMap_cons, List.append_assoc]

theorem letters_map_letter (letters : List Char) :
    (letters.map Mark.letter).filterMap Mark.letter? = letters := by
  rw [List.filterMap_map]
  exact List.filterMap_some

theorem Piece.letters_marks (piece : Piece) :
    piece.marks.filterMap Mark.letter? = (piece.written false).toList := by
  unfold written Piece.marks
  cases piece.style with
  | none => exact letters_map_letter _
  | some style =>
      rw [List.filterMap_cons_none rfl, List.filterMap_append, letters_map_letter]
      exact List.append_nil _

/-- The letters of a row of pieces are the row as it is written without colours. -/
theorem letters_pieces (pieces : List Piece) :
    (pieces.flatMap Piece.marks).filterMap Mark.letter? =
      pieces.flatMap fun piece => (piece.written false).toList := by
  rw [List.filterMap_flatMap]
  exact List.flatMap_congr fun piece _ => piece.letters_marks

theorem Closed.letters (letters : List Char) (closed : Closed rest) :
    Closed (letters.map .letter ++ rest) := by
  induction letters with
  | nil => exact closed
  | cons c letters ih => exact ih.letter

theorem Closed.piece (piece : Piece) (closed : Closed rest) : Closed (piece.marks ++ rest) := by
  unfold Piece.marks
  cases piece.style with
  | none => exact closed.letters _
  | some style =>
      rw [List.cons_append, List.append_assoc]
      exact closed.styled style.codes_ne_reset

theorem closed_pieces (pieces : List Piece) : Closed (pieces.flatMap Piece.marks) := by
  induction pieces with
  | nil => exact .nil
  | cons piece pieces ih => exact ih.piece piece

theorem Piece.shownFrom_marks (piece : Piece) (rest : List Mark) :
    shownFrom [] (piece.marks ++ rest) = piece.shown ++ shownFrom [] rest := by
  unfold Piece.marks Piece.shown
  cases piece.style with
  | none => exact shownFrom_letters [] _ _
  | some style =>
      rw [List.cons_append, List.append_assoc, shownFrom, shownFrom_letters, List.singleton_append,
        shownFrom, setCodes_reset, styleCodes]

/-- Every piece of a row is shown in its own style, and nothing of it is left behind the row. -/
theorem shownFrom_pieces (pieces : List Piece) (rest : List Mark) :
    shownFrom [] (pieces.flatMap Piece.marks ++ rest) =
      pieces.flatMap Piece.shown ++ shownFrom [] rest := by
  induction pieces with
  | nil => rfl
  | cons piece pieces ih =>
      rw [List.flatMap_cons, List.append_assoc, piece.shownFrom_marks, ih, List.flatMap_cons,
        List.append_assoc]

end

/-! ## The pieces of a report -/

/-- The pieces of the place of a message. -/
def styledPlace (message : Message) : List Piece :=
  match message.start with
  | some place =>
      [⟨none, toString place.row⟩, ⟨some .cyan, ":"⟩, ⟨none, toString place.column⟩,
        ⟨some .cyan, ":"⟩]
  | none =>
      [⟨none, toString message.range.start.toNat⟩, ⟨none, ".."⟩,
        ⟨none, toString message.range.stop.toNat⟩, ⟨some .cyan, ":"⟩]

/-- The pieces of the line of a message: the filename is bold, the code bold and red, the colons
cyan, and the rest is plain. -/
def styledLine (message : Message) : List Piece :=
  [⟨some .bold, message.filename⟩, ⟨some .cyan, ":"⟩] ++ styledPlace message ++
    [⟨none, " "⟩, ⟨some .boldRed, message.code⟩, ⟨none, " "⟩, ⟨none, message.body⟩, ⟨none, "\n"⟩]

/-- No escape character is in what a message is about and says. -/
structure EscapeFree (message : Message) : Prop where
  filename : '\x1b' ∉ message.filename.toList
  code : '\x1b' ∉ message.code.toList
  body : '\x1b' ∉ message.body.toList

theorem linePieces_eq (colors : Bool) (message : Message) :
    linePieces colors message = (styledLine message).map (Piece.written colors) := by
  unfold linePieces placePieces styledLine styledPlace
  cases message.start <;> rfl

theorem toList_text_eq_flatMap (colors : Bool) (messages : List Message) :
    (text colors messages).toList =
      (messages.flatMap styledLine).flatMap fun piece => (piece.written colors).toList := by
  rw [text, textPieces, String.toList_join, List.flatMap_assoc, List.flatMap_assoc]
  refine List.flatMap_congr fun message _ => ?_
  rw [linePieces_eq, List.flatMap_map]

theorem clean_of_mem_styledPlace {message : Message} :
    ∀ piece ∈ styledPlace message, piece.Clean := by
  have digits := notMem_toDigits (c := '\x1b') rfl
  unfold styledPlace
  cases message.start with
  | none => simp [Piece.Clean, digits]
  | some location => simp [Piece.Clean, digits]

/-- The pieces around the parts of a message and its place hold no escape character. -/
theorem EscapeFree.clean {message : Message} (free : EscapeFree message) :
    ∀ piece ∈ styledLine message, piece.Clean := by
  simp only [styledLine, List.forall_mem_append]
  refine ⟨⟨?_, clean_of_mem_styledPlace⟩, ?_⟩
  · simp [Piece.Clean, free.filename]
  · simp [Piece.Clean, free.code, free.body]

theorem clean_of_mem_pieces {messages : List Message}
    (free : ∀ message ∈ messages, EscapeFree message) :
    ∀ piece ∈ messages.flatMap styledLine, piece.Clean := by
  intro piece member
  obtain ⟨message, reported, inside⟩ := List.mem_flatMap.1 member
  exact (free message reported).clean piece inside

/-! ## Coloured and plain reports -/

/-- What a terminal reads in a report and in what follows it: the pieces, and what follows alone. -/
theorem marks_text_append {messages : List Message}
    (free : ∀ message ∈ messages, EscapeFree message) (behind : List Char) :
    marks ((text true messages).toList ++ behind) =
      (messages.flatMap styledLine).flatMap Piece.marks ++ marks behind := by
  rw [toList_text_eq_flatMap, marks_written_append (clean_of_mem_pieces free)]

theorem marks_text {messages : List Message}
    (free : ∀ message ∈ messages, EscapeFree message) :
    marks (text true messages).toList = (messages.flatMap styledLine).flatMap Piece.marks := by
  have alone := marks_text_append free []
  rwa [List.append_nil, marks_nil, List.append_nil] at alone

theorem clean_summary (messages : List Message) : '\x1b' ∉ (summary messages).toList := by
  have digits := notMem_toDigits (c := '\x1b') rfl
  unfold summary
  split
  next => decide
  next => decide
  next => simp [digits]

/-- Where the names and bodies of messages hold no escape character, a coloured report without its
styling sequences is the report without colours.  The line of each message closes every style that
it sets before it sets the next one and before it ends, and the report is read line by line.  So a
terminal shows the filename bold, the code bold and red and the colons cyan, everything else in the
lines plain, and what comes behind the report, such as the summary, as it would show it alone. -/
theorem colored_text_agrees_with_plain {messages : List Message}
    (free : ∀ message ∈ messages, EscapeFree message) :
    unstyled (text true messages).toList = (text false messages).toList ∧
      (∀ message ∈ messages, Closed (marks (text true [message]).toList)) ∧
      (∀ behind, marks ((text true messages).toList ++ behind) =
        (messages.flatMap fun message => marks (text true [message]).toList) ++ marks behind) ∧
      (∀ behind, shown ((text true messages).toList ++ behind) =
        (messages.flatMap styledLine).flatMap Piece.shown ++ shown behind) ∧
      shown (text true messages ++ summary messages).toList =
        (messages.flatMap styledLine).flatMap Piece.shown ++
          (summary messages).toList.map ([], ·) := by
  have alone (message : Message) (reported : message ∈ messages) :
      marks (text true [message]).toList = (styledLine message).flatMap Piece.marks := by
    have only : marks (text true [message]).toList =
        ([message].flatMap styledLine).flatMap Piece.marks :=
      marks_text (by simpa using free message reported)
    rwa [List.flatMap_singleton] at only
  have follows (behind : List Char) : shown ((text true messages).toList ++ behind) =
      (messages.flatMap styledLine).flatMap Piece.shown ++ shown behind := by
    rw [shown, marks_text_append free, shownFrom_pieces, shown]
  refine ⟨?_, fun message reported => ?_, fun behind => ?_, follows, ?_⟩
  · rw [unstyled, marks_text free, letters_pieces, toList_text_eq_flatMap]
  · rw [alone message reported]
    exact closed_pieces _
  · rw [marks_text_append free, List.flatMap_assoc]
    congr 1
    exact List.flatMap_congr fun message reported => (alone message reported).symm
  · rw [String.toList_append, follows, shown_of_clean (clean_summary messages)]

/-- Messages whose parts are like styling sequences that lack the escape character; the first one
has no filename, and the second one an empty code. -/
def bracketedMessages : List Message :=
  [⟨"ShadowedVariable", "[1m;[0m", ⟨17, 19, by decide⟩, "", none, none⟩,
    ⟨"", "31m\n", ⟨17, 19, by decide⟩, "[36m.json", some ⟨1, 9⟩, some ⟨1, 10⟩⟩]

theorem colored_bracketedMessages :
    (∀ message ∈ bracketedMessages, EscapeFree message) ∧
      text true bracketedMessages =
        "\x1b[1m\x1b[0m\x1b[36m:\x1b[0m17..19\x1b[36m:\x1b[0m \x1b[1;31mno-shadow\x1b[0m [1m;[0m\n" ++
          "\x1b[1m[36m.json\x1b[0m\x1b[36m:\x1b[0m1\x1b[36m:\x1b[0m9\x1b[36m:\x1b[0m " ++
          "\x1b[1;31m\x1b[0m 31m\n\n" ∧
      unstyled (text true bracketedMessages).toList =
        ":17..19: no-shadow [1m;[0m\n[36m.json:1:9:  31m\n\n".toList ∧
      ∀ message ∈ bracketedMessages, Closed (marks (text true [message]).toList) := by
  have free : ∀ message ∈ bracketedMessages, EscapeFree message := by
    simp only [bracketedMessages, List.forall_mem_cons]
    exact ⟨⟨by decide, by decide, by decide⟩, ⟨by decide, by decide, by decide⟩, by simp⟩
  obtain ⟨letters, closed, -⟩ := colored_text_agrees_with_plain free
  have plain : (text false bracketedMessages).toList =
      ":17..19: no-shadow [1m;[0m\n[36m.json:1:9:  31m\n\n".toList := by decide +kernel
  exact ⟨free, by decide +kernel, letters.trans plain, closed⟩

end ShadowLint.Report
