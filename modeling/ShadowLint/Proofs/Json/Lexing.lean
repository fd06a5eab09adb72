import ShadowLint.Proofs.Json.Rendering

/-!
# Tokens of the texts of values

Cutting a text of a value into tokens gives the tokens of the value, whatever its spelling
(`Value.Renders.tokens_eq`).  There is one lemma for each layer of the grammar, and each is
stated in front of an arbitrary rest of the text.

Only numerals have no end of their own: a digit behind one would belong to it.  In the row of
tokens of a value, however, a numeral stands in front of a comma or a closing bracket, or last
(`Separated`).
-/

namespace ShadowLint.Json

/-! ## Numerals -/

/-- A rest of a text that does not go on with a numeral in front of it. -/
def EndsNumeral (more : List Char) : Prop :=
  ∀ c, more.head? = some c → isDigit c = false ∧ c ≠ '.' ∧ c ≠ 'e' ∧ c ≠ 'E'

/-- A rest of a text that does not go on with the digits in front of it. -/
def EndsDigits (more : List Char) : Prop := ∀ c, more.head? = some c → isDigit c = false

theorem EndsNumeral.endsDigits {more : List Char} (ends : EndsNumeral more) : EndsDigits more :=
  fun c first => (ends c first).1

theorem takeWhile_digits {digits more : List Char} (all : ∀ c ∈ digits, isDigit c = true)
    (ends : EndsDigits more) : (digits ++ more).takeWhile isDigit = digits := by
  rw [List.takeWhile_append_of_pos all]
  cases more with
  | nil => simp
  | cons c rest => simp [ends c rfl]

theorem dropWhile_digits {digits more : List Char} (all : ∀ c ∈ digits, isDigit c = true)
    (ends : EndsDigits more) : (digits ++ more).dropWhile isDigit = more := by
  rw [List.dropWhile_append_of_pos all]
  cases more with
  | nil => simp
  | cons c rest => simp [ends c rfl]

theorem Digits.isEmpty_eq {digits : List Char} (row : Digits digits) : digits.isEmpty = false := by
  cases digits with
  | nil => exact absurd rfl row.1
  | cons c rest => rfl

theorem not_isDigit_of_letter {letter : Char} (isLetter : letter = 'e' ∨ letter = 'E') :
    isDigit letter = false ∧ letter ≠ '.' := by
  rcases isLetter with rfl | rfl <;> decide

theorem ExponentWritten.endsDigits {exponent : Option Exponent} {written more : List Char}
    (spelling : ExponentWritten exponent written) (ends : EndsNumeral more) :
    ∀ c, (written ++ more).head? = some c → isDigit c = false ∧ c ≠ '.' := by
  intro c first
  cases spelling with
  | absent => exact ⟨(ends c first).1, (ends c first).2.1⟩
  | unsigned isLetter _ => cases first; exact not_isDigit_of_letter isLetter
  | positive isLetter _ => cases first; exact not_isDigit_of_letter isLetter
  | negative isLetter _ => cases first; exact not_isDigit_of_letter isLetter

theorem FractionWritten.endsDigits {fraction written more : List Char}
    (spelling : FractionWritten fraction written)
    (ends : ∀ c, more.head? = some c → isDigit c = false ∧ c ≠ '.') :
    EndsDigits (written ++ more) := by
  intro c first
  cases spelling with
  | absent => exact (ends c first).1
  | point _ => cases first; rfl

theorem scanPower_append {numeral : Numeral} {digits more : List Char} (row : Digits digits)
    (ends : EndsNumeral more) :
    scanPower numeral (digits ++ more) =
        (.number { numeral with exponent := some ⟨false, digits⟩ }, more) ∧
      scanPower numeral ('+' :: (digits ++ more)) =
        (.number { numeral with exponent := some ⟨false, digits⟩ }, more) ∧
      scanPower numeral ('-' :: (digits ++ more)) =
        (.number { numeral with exponent := some ⟨true, digits⟩ }, more) := by
  have taken := takeWhile_digits row.2 ends.endsDigits
  have left := dropWhile_digits row.2 ends.endsDigits
  have some := row.isEmpty_eq
  refine ⟨?_, ?_, ?_⟩
  · cases digits with
    | nil => exact absurd rfl row.1
    | cons d rest =>
        have digit := row.2 d List.mem_cons_self
        have notPlus : d ≠ '+' := fun same => absurd (same ▸ digit) (by decide)
        have notMinus : d ≠ '-' := fun same => absurd (same ▸ digit) (by decide)
        rw [List.cons_append] at taken left ⊢
        simp [scanPower, notPlus, notMinus, taken, left]
  · simp [scanPower, taken, left, some]
  · simp [scanPower, taken, left, some]

theorem scanExponent_append {numeral : Numeral} {exponent : Option Exponent}
    {written more : List Char} (spelling : ExponentWritten exponent written)
    (ends : EndsNumeral more) (none : numeral.exponent = none) :
    scanExponent numeral (written ++ more) = (.number { numeral with exponent }, more) := by
  have letter (c : Char) (rest : List Char) (isLetter : c = 'e' ∨ c = 'E') :
      scanExponent numeral (c :: rest) = scanPower numeral rest := by
    rw [scanExponent, if_pos (by simpa using isLetter)]
  cases spelling with
  | absent =>
      have same : { numeral with exponent := Option.none } = numeral := by
        rw [← none]
      rw [same, List.nil_append]
      cases more with
      | nil => rfl
      | cons c rest =>
          have other := (ends c rfl).2.2
          rw [scanExponent, if_neg (by simpa using other)]
  | unsigned isLetter row =>
      rw [List.cons_append, letter _ _ isLetter, (scanPower_append row ends).1]
  | positive isLetter row =>
      rw [List.cons_append, List.cons_append, letter _ _ isLetter,
        (scanPower_append row ends).2.1]
  | negative isLetter row =>
      rw [List.cons_append, List.cons_append, letter _ _ isLetter,
        (scanPower_append row ends).2.2]

theorem scanFraction_append {numeral : Numeral} {fraction : List Char}
    {exponent : Option Exponent} {point power more : List Char}
    (spelling : FractionWritten fraction point) (spellingPower : ExponentWritten exponent power)
    (ends : EndsNumeral more) (whole : numeral.fraction = []) (none : numeral.exponent = none) :
    scanFraction numeral (point ++ (power ++ more)) =
      (.number { numeral with fraction, exponent }, more) := by
  have follows := spellingPower.endsDigits ends
  cases spelling with
  | absent =>
      have same : { numeral with fraction := [] } = numeral := by
        rw [← whole]
      rw [List.nil_append]
      unfold scanFraction
      split
      · next heq =>
          rw [heq] at follows
          exact absurd rfl (follows '.' rfl).2
      · rw [scanExponent_append spellingPower ends none, ← whole]
  | point row =>
      have ended : EndsDigits (power ++ more) := fun c first => (follows c first).1
      rw [List.cons_append, scanFraction]
      rw [takeWhile_digits row.2 ended, dropWhile_digits row.2 ended, row.isEmpty_eq]
      simp only [Bool.false_eq_true, if_false]
      rw [scanExponent_append spellingPower ends (by exact none)]

/-- A numeral is scanned from behind its sign. -/
theorem Numeral.Written.scan {numeral : Numeral} {written more : List Char}
    (spelling : numeral.Written written) (ends : EndsNumeral more) :
    ∃ text, written = (if numeral.negative then ['-'] else []) ++ text ∧
      (∃ c rest, text = c :: rest ∧ isDigit c = true) ∧
      scanNumeral numeral.negative (text ++ more) = (.number numeral, more) := by
  obtain ⟨row, alone, spellingFraction, spellingExponent⟩ := spelling
  rename_i point power
  refine ⟨_, rfl, ?_, ?_⟩
  · cases start : numeral.whole with
    | nil => exact absurd start row.1
    | cons c rest => exact ⟨c, _, rfl, row.2 c (by rw [start]; exact List.mem_cons_self)⟩
  · have ended : EndsDigits (point ++ (power ++ more)) :=
      spellingFraction.endsDigits (spellingExponent.endsDigits ends)
    have rest : scanFraction ⟨numeral.negative, numeral.whole, [], none⟩
        (point ++ (power ++ more)) = (.number numeral, more) :=
      scanFraction_append spellingFraction spellingExponent ends rfl rfl
    rw [List.append_assoc, List.append_assoc]
    unfold scanNumeral
    dsimp only
    rw [takeWhile_digits row.2 ended, dropWhile_digits row.2 ended]
    split
    · next empty => exact absurd empty row.1
    · exact rest
    · next zero more' several start =>
        have single := alone (by rw [start]; rfl)
        rw [single] at start
        exact absurd start (by simpa using several)
    · exact rest

/-! ## Strings -/

theorem unit?_of_unitWritten {n : Nat} {digits : List Char} (spelling : UnitWritten n digits) :
    ∃ a b c d, digits = [a, b, c, d] ∧ unit? a b c d = some n := by
  obtain ⟨first, second, third, fourth⟩ := spelling
  refine ⟨_, _, _, _, rfl, ?_⟩
  rw [unit?, first, second, third, fourth]
  rfl

theorem scanString_unit {content : Content} {n : Nat} {digits more : List Char}
    (spelling : UnitWritten n digits) :
    scanString content ('\\' :: 'u' :: (digits ++ more)) =
      scanString (content.pushUnit n) more := by
  obtain ⟨a, b, c, d, rfl, made⟩ := unit?_of_unitWritten spelling
  simp only [List.cons_append, List.nil_append]
  rw [scanString, made]

/-- The number of a character is never half of a pair. -/
theorem pushUnit_toNat (reversed : List Char) (c : Char) :
    (Content.chars reversed).pushUnit c.toNat = .chars (c :: reversed) := by
  have valid : c.toNat < 0xd800 ∨ 0xdfff < c.toNat ∧ c.toNat < 0x110000 := c.valid
  have notHigh : (0xd800 ≤ c.toNat && c.toNat ≤ 0xdbff) = false := by
    simp only [Bool.and_eq_false_iff, decide_eq_false_iff_not]
    omega
  have notLow : (0xdc00 ≤ c.toNat && c.toNat ≤ 0xdfff) = false := by
    simp only [Bool.and_eq_false_iff, decide_eq_false_iff_not]
    omega
  simp [Content.pushUnit, notHigh, notLow, Char.ofNat_toNat]

/-- Two halves of a pair make up the character with the number that they stand for. -/
theorem pushUnit_pair (reversed : List Char) {c : Char} {high low : Nat}
    (inHigh : 0xd800 ≤ high ∧ high ≤ 0xdbff) (inLow : 0xdc00 ≤ low ∧ low ≤ 0xdfff)
    (whole : 0x10000 + (high - 0xd800) * 0x400 + (low - 0xdc00) = c.toNat) :
    ((Content.chars reversed).pushUnit high).pushUnit low = .chars (c :: reversed) := by
  have isHigh : (0xd800 ≤ high && high ≤ 0xdbff) = true := by simpa using inHigh
  have isLow : (0xdc00 ≤ low && low ≤ 0xdfff) = true := by simpa using inLow
  simp only [Content.pushUnit, isHigh, isLow, if_true]
  rw [whole, Char.ofNat_toNat]

/-- The halves of a number beyond the 16-bit numbers, and how they make it up. -/
theorem halves_of_wide {n : Nat} (wide : 0x10000 ≤ n) (limit : n < 0x110000) :
    (0xd800 ≤ 0xd800 + (n - 0x10000) / 0x400 ∧ 0xd800 + (n - 0x10000) / 0x400 ≤ 0xdbff) ∧
      (0xdc00 ≤ 0xdc00 + (n - 0x10000) % 0x400 ∧ 0xdc00 + (n - 0x10000) % 0x400 ≤ 0xdfff) ∧
      0x10000 + (0xd800 + (n - 0x10000) / 0x400 - 0xd800) * 0x400
        + (0xdc00 + (n - 0x10000) % 0x400 - 0xdc00) = n := by
  omega

theorem scanString_letter (content : Content) {e c : Char} (escape : (e, c) ∈ letterEscapes)
    (more : List Char) :
    scanString content ('\\' :: e :: more) = scanString (content.push c) more := by
  have known : escaped? e = some c ∧ e ≠ 'u' := by
    revert escape
    simp only [letterEscapes, List.mem_cons, Prod.mk.injEq, List.not_mem_nil, or_false]
    rintro (⟨rfl, rfl⟩ | ⟨rfl, rfl⟩ | ⟨rfl, rfl⟩ | ⟨rfl, rfl⟩ | ⟨rfl, rfl⟩ | ⟨rfl, rfl⟩ |
      ⟨rfl, rfl⟩ | ⟨rfl, rfl⟩) <;> decide
  rw [scanString]
  · rw [known.1]
  · intro a b c d rest isNumber
    exact absurd isNumber known.2
  · intro isNumber
    exact absurd isNumber known.2

/-- Scanning a character of a string, however it is spelled, appends it. -/
theorem CharWritten.scan {c : Char} {written : List Char} (spelling : CharWritten c written)
    (reversed more : List Char) :
    scanString (.chars reversed) (written ++ more) = scanString (.chars (c :: reversed)) more := by
  cases spelling with
  | plain printable notQuote notBackslash =>
      rw [List.singleton_append, scanString]
      · rw [if_neg (Nat.not_lt.2 printable)]
        rfl
      · exact notQuote
      · intro isBackslash _
        exact notBackslash isBackslash
      · intro a b c' d rest isBackslash _
        exact notBackslash isBackslash
      · intro short isBackslash _
        exact notBackslash isBackslash
      · intro e rest isBackslash _
        exact notBackslash isBackslash
  | letter escape => exact scanString_letter (.chars reversed) escape more
  | unit spelling =>
      rw [List.cons_append, List.cons_append, scanString_unit spelling, pushUnit_toNat]
  | pair wide first second =>
      have valid : c.toNat < 0xd800 ∨ 0xdfff < c.toNat ∧ c.toNat < 0x110000 := c.valid
      obtain ⟨inHigh, inLow, whole⟩ := halves_of_wide wide (by omega)
      rw [List.cons_append, List.cons_append, List.append_assoc, scanString_unit first,
        List.cons_append, List.cons_append, scanString_unit second,
        pushUnit_pair reversed inHigh inLow whole]

theorem CharsWritten.scan {characters written : List Char}
    (spelling : CharsWritten characters written) (reversed more : List Char) :
    scanString (.chars reversed) (written ++ '"' :: more) =
      (.string (some (String.ofList (reversed.reverse ++ characters))), more) := by
  induction spelling generalizing reversed with
  | nil =>
      rw [List.nil_append, scanString, List.append_nil]
      rfl
  | cons first _ ih =>
      rw [List.append_assoc, first.scan, ih, List.reverse_cons, List.append_assoc,
        List.singleton_append]

/-! ## Tokens -/

theorem scanWord_append (token : Token) (word more : List Char) :
    scanWord token word (word ++ more) = (token, more) := by
  induction word with
  | nil => rfl
  | cons w word ih => rw [List.cons_append, scanWord, if_pos rfl, ih]

theorem scanToken_digit {c : Char} (digit : isDigit c = true) (rest : List Char) :
    isBlank c = false ∧ scanToken c rest = scanNumeral false (c :: rest) := by
  constructor
  · unfold isBlank
    simp only [Bool.or_eq_false_iff, decide_eq_false_iff_not]
    refine ⟨⟨⟨?_, ?_⟩, ?_⟩, ?_⟩ <;> rintro rfl <;> exact absurd digit (by decide)
  · unfold scanToken
    split
    case h_12 => rw [if_pos digit]
    all_goals exact absurd digit (by decide)

/-- A token is scanned whole, however it is spelled. -/
theorem Token.Written.scan {token : Token} {written more : List Char}
    (spelling : token.Written written)
    (ends : ∀ numeral, token = .number numeral → EndsNumeral more) :
    ∃ c rest, written = c :: rest ∧ isBlank c = false ∧ token.isBroken = false ∧
      scanToken c (rest ++ more) = (token, more) := by
  cases spelling with
  | leftBrace => exact ⟨_, _, rfl, rfl, rfl, rfl⟩
  | rightBrace => exact ⟨_, _, rfl, rfl, rfl, rfl⟩
  | leftBracket => exact ⟨_, _, rfl, rfl, rfl, rfl⟩
  | rightBracket => exact ⟨_, _, rfl, rfl, rfl, rfl⟩
  | colon => exact ⟨_, _, rfl, rfl, rfl, rfl⟩
  | comma => exact ⟨_, _, rfl, rfl, rfl, rfl⟩
  | null => exact ⟨_, _, rfl, rfl, rfl, scanWord_append .null ['u', 'l', 'l'] more⟩
  | trueWord => exact ⟨_, _, rfl, rfl, rfl, scanWord_append (.bool true) ['r', 'u', 'e'] more⟩
  | falseWord =>
      exact ⟨_, _, rfl, rfl, rfl, scanWord_append (.bool false) ['a', 'l', 's', 'e'] more⟩
  | number spelling =>
      rename_i numeral
      obtain ⟨text, rfl, ⟨c, rest, rfl, digit⟩, scanned⟩ := spelling.scan (ends numeral rfl)
      cases sign : numeral.negative with
      | true =>
          rw [sign] at scanned
          exact ⟨'-', c :: rest, rfl, rfl, rfl, scanned⟩
      | false =>
          rw [sign] at scanned
          obtain ⟨notBlank, taken⟩ := scanToken_digit digit (rest ++ more)
          exact ⟨c, rest, rfl, notBlank, rfl, taken.trans scanned⟩
  | string spelling =>
      rename_i text body
      refine ⟨'"', body ++ ['"'], rfl, rfl, rfl, ?_⟩
      have scanned := spelling.scan [] more
      rw [List.reverse_nil, List.nil_append, String.ofList_toList] at scanned
      rw [List.append_assoc, List.singleton_append]
      exact scanned

/-! ## Rows of tokens -/

/-- A token that can stand behind a value: a comma or a closing bracket. -/
def Token.closes : Token → Bool
  | .comma => true
  | .rightBracket => true
  | .rightBrace => true
  | _ => false

/-- A row of tokens that can stand behind a value begins with such a token, if with any. -/
def StartsClosing (rest : List Token) : Prop :=
  ∀ next, rest.head? = some next → next.closes = true

/-- Behind each numeral of a row stands a comma or a closing bracket, if anything. -/
def Separated : List Token → Prop
  | [] => True
  | token :: rest => (∀ numeral, token = .number numeral → StartsClosing rest) ∧ Separated rest

theorem Token.Written.endsNumeral {token : Token} {written : List Char}
    (spelling : token.Written written) (closes : token.closes = true) (more : List Char) :
    EndsNumeral (written ++ more) := by
  intro c first
  cases spelling with
  | comma => cases first; decide
  | rightBracket => cases first; decide
  | rightBrace => cases first; decide
  | leftBrace | leftBracket | colon | null | trueWord | falseWord | number _ | string _ =>
      cases closes

theorem Blank.endsNumeral {blanks more : List Char} (blank : Blank blanks)
    (ends : EndsNumeral more) : EndsNumeral (blanks ++ more) := by
  intro c first
  cases blanks with
  | nil => exact ends c first
  | cons b rest =>
      cases first
      rcases blank c List.mem_cons_self with rfl | rfl | rfl | rfl <;> decide

theorem Spaced.endsNumeral {rest : List Token} {more : List Char} (spaced : Spaced rest more)
    (starts : StartsClosing rest) : EndsNumeral more := by
  cases spaced with
  | nil blank =>
      have ended : EndsNumeral [] := fun c first => by cases first
      have ends := blank.endsNumeral ended
      rwa [List.append_nil] at ends
  | cons blank written _ =>
      exact blank.endsNumeral (written.endsNumeral (starts _ rfl) _)

theorem tokensWithin_blank {blanks : List Char} (blank : Blank blanks) (fuel : Nat)
    (more : List Char) :
    tokensWithin (blanks.length + fuel) (blanks ++ more) = tokensWithin fuel more := by
  induction blanks with
  | nil => rw [List.length_nil, Nat.zero_add, List.nil_append]
  | cons c rest ih =>
      have isBlank : isBlank c = true := by
        rcases blank c List.mem_cons_self with rfl | rfl | rfl | rfl <;> rfl
      have others : Blank rest := fun b member => blank b (List.mem_cons_of_mem c member)
      rw [List.length_cons, Nat.add_right_comm, List.cons_append, tokensWithin, if_pos isBlank,
        ih others]

theorem tokensWithin_nil (fuel : Nat) : tokensWithin fuel [] = [] := by
  cases fuel with
  | zero => rfl
  | succ fuel => rfl

/-- The induction is on the grammar; the fuel lasts because every token has a character. -/
theorem tokensWithin_of_spaced {row : List Token} {text : List Char} (spaced : Spaced row text)
    (separated : Separated row) {fuel : Nat} (enough : text.length ≤ fuel) :
    tokensWithin fuel text = row := by
  induction spaced generalizing fuel with
  | nil blank =>
      rename_i blanks
      obtain ⟨spare, rfl⟩ := Nat.exists_eq_add_of_le enough
      have skipped := tokensWithin_blank blank spare []
      rw [List.append_nil] at skipped
      rw [skipped, tokensWithin_nil]
  | cons blank written others ih =>
      rename_i token rest blanks text more
      obtain ⟨behind, separatedRest⟩ := separated
      obtain ⟨c, tail, rfl, notBlank, whole, scanned⟩ :=
        written.scan fun numeral same => others.endsNumeral (behind numeral same)
      rw [List.length_append, List.length_append, List.length_cons] at enough
      obtain ⟨spare, rfl⟩ := Nat.exists_eq_add_of_le (Nat.le_of_add_right_le enough)
      rw [tokensWithin_blank blank]
      cases spare with
      | zero => omega
      | succ spare =>
          rw [List.cons_append, tokensWithin, if_neg (by simp [notBlank]), scanned]
          dsimp only
          rw [if_neg (by simp [whole]), ih separatedRest (by omega)]

/-! ## Values -/

/-- A row of tokens that can stand behind a value. -/
def ClosingRow (rest : List Token) : Prop := Separated rest ∧ StartsClosing rest

theorem closingRow_nil : ClosingRow [] := ⟨trivial, fun next first => by cases first⟩

theorem ClosingRow.cons {token : Token} {rest : List Token} (closes : token.closes = true)
    (separated : Separated rest) : ClosingRow (token :: rest) := by
  refine ⟨⟨fun numeral same => ?_, separated⟩, fun next first => ?_⟩
  · rw [same] at closes
    cases closes
  · cases first
    exact closes

theorem Separated.cons {token : Token} {rest : List Token}
    (noNumeral : ∀ numeral, token ≠ .number numeral) (separated : Separated rest) :
    Separated (token :: rest) :=
  ⟨fun numeral same => absurd same (noNumeral numeral), separated⟩

theorem closingRow_itemTokens {items : List Value} {rest : List Token}
    (each : ∀ item ∈ items, ∀ rest, ClosingRow rest → Separated (item.tokens ++ rest))
    (closing : ClosingRow rest) : ClosingRow (itemTokens items ++ rest) := by
  induction items with
  | nil => exact closing
  | cons head others ih =>
      have behind := ih fun item member => each item (List.mem_cons_of_mem head member)
      have first := each head List.mem_cons_self _ behind
      rw [itemTokens, List.cons_append, List.append_assoc]
      exact .cons rfl first

theorem closingRow_memberTokens {members : List (String × Value)} {rest : List Token}
    (each : ∀ member ∈ members, ∀ rest, ClosingRow rest → Separated (member.2.tokens ++ rest))
    (closing : ClosingRow rest) : ClosingRow (memberTokens members ++ rest) := by
  induction members with
  | nil => exact closing
  | cons head others ih =>
      have behind := ih fun member inside => each member (List.mem_cons_of_mem head inside)
      have first := each head List.mem_cons_self _ behind
      rw [memberTokens, List.cons_append, List.cons_append, List.cons_append, List.append_assoc]
      exact .cons rfl
        (.cons (fun _ => Token.noConfusion) (.cons (fun _ => Token.noConfusion) first))

theorem Value.separated_tokens (value : Value) :
    ∀ rest, ClosingRow rest → Separated (value.tokens ++ rest) := by
  induction value using Value.induction with
  | null => exact fun rest closing => .cons (fun _ => Token.noConfusion) closing.1
  | bool value => exact fun rest closing => .cons (fun _ => Token.noConfusion) closing.1
  | number numeral => exact fun rest closing => ⟨fun _ _ => closing.2, closing.1⟩
  | string text => exact fun rest closing => .cons (fun _ => Token.noConfusion) closing.1
  | array items each =>
      intro rest closing
      have close : ClosingRow (.rightBracket :: rest) := .cons rfl closing.1
      cases items with
      | nil => exact .cons (fun _ => Token.noConfusion) close.1
      | cons head others =>
          have behind := closingRow_itemTokens
            (fun item member => each item (List.mem_cons_of_mem head member)) close
          have first := each head List.mem_cons_self _ behind
          rw [tokens, List.cons_append, List.append_assoc, List.append_assoc,
            List.singleton_append]
          exact .cons (fun _ => Token.noConfusion) first
  | object members each =>
      intro rest closing
      have close : ClosingRow (.rightBrace :: rest) := .cons rfl closing.1
      cases members with
      | nil => exact .cons (fun _ => Token.noConfusion) close.1
      | cons head others =>
          have behind := closingRow_memberTokens
            (fun member inside => each member (List.mem_cons_of_mem head inside)) close
          have first := each head List.mem_cons_self _ behind
          rw [tokens, List.cons_append, List.cons_append, List.cons_append, List.append_assoc,
            List.append_assoc, List.singleton_append]
          exact .cons (fun _ => Token.noConfusion)
            (.cons (fun _ => Token.noConfusion) (.cons (fun _ => Token.noConfusion) first))

/-- All texts of a value have the tokens of the value. -/
theorem Value.Renders.tokens_eq {value : Value} {text : String} (renders : value.Renders text) :
    Json.tokens text.toList = value.tokens := by
  have separated := value.separated_tokens [] closingRow_nil
  rw [List.append_nil] at separated
  exact tokensWithin_of_spaced renders separated (Nat.le_refl _)

end ShadowLint.Json
