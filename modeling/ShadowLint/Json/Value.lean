import ShadowLint.Json.Numeral
import ShadowLint.Text.Quoted

/-!
# Writing JSON texts

A `Value` is the tree of a JSON text, with the members of its objects in order.  It is
written without any white space, or spread over lines with two blanks for each level.

In a string the quote, the backslash and the control characters are escaped, the usual
five of them by a letter; every other character stands for itself.
-/

namespace ShadowLint.Json

/-- A JSON value. -/
inductive Value where
  | null
  | bool (value : Bool)
  | number (numeral : Numeral)
  | string (text : String)
  | array (items : List Value)
  | object (members : List (String × Value))

instance : Inhabited Value := ⟨.null⟩

/-- The value of a natural number. -/
def Value.ofNat (n : Nat) : Value := .number (Numeral.ofNat n)

/-- The value of a string or of its absence. -/
def Value.ofString? : Option String → Value
  | some text => .string text
  | none => .null

/-- One character of a string. -/
def stringChar (c : Char) : List Char :=
  if c = '"' then ['\\', '"']
  else if c = '\\' then ['\\', '\\']
  else if c = '\x08' then ['\\', 'b']
  else if c = '\x0c' then ['\\', 'f']
  else if c = '\n' then ['\\', 'n']
  else if c = '\r' then ['\\', 'r']
  else if c = '\t' then ['\\', 't']
  else if c.toNat < 0x20 then
    ['\\', 'u', '0', '0', Text.hexDigit (c.toNat / 16), Text.hexDigit (c.toNat % 16)]
  else [c]

/-- A string between quotes. -/
def stringText (text : String) : List Char :=
  '"' :: text.toList.flatMap stringChar ++ ['"']

/-! ## Without white space -/

mutual

/-- A value without any white space. -/
def Value.compact : Value → List Char
  | .null => ['n', 'u', 'l', 'l']
  | .bool true => ['t', 'r', 'u', 'e']
  | .bool false => ['f', 'a', 'l', 's', 'e']
  | .number numeral => numeral.text
  | .string text => stringText text
  | .array [] => ['[', ']']
  | .array (head :: rest) => '[' :: head.compact ++ compactItems rest ++ [']']
  | .object [] => ['\x7b', '\x7d']
  | .object ((key, value) :: rest) =>
      '\x7b' :: stringText key ++ ':' :: value.compact ++ compactMembers rest ++ ['\x7d']

/-- The items of an array behind the first one. -/
def compactItems : List Value → List Char
  | [] => []
  | head :: rest => ',' :: head.compact ++ compactItems rest

/-- The members of an object behind the first one. -/
def compactMembers : List (String × Value) → List Char
  | [] => []
  | (key, value) :: rest =>
      ',' :: stringText key ++ ':' :: value.compact ++ compactMembers rest

end

/-! ## Spread over lines -/

/-- The start of a new line at a level. -/
def newLine (level : Nat) : List Char := '\n' :: List.replicate (2 * level) ' '

mutual

/-- A value that stands at a level, spread over lines. -/
def Value.spread (level : Nat) : Value → List Char
  | .null => ['n', 'u', 'l', 'l']
  | .bool true => ['t', 'r', 'u', 'e']
  | .bool false => ['f', 'a', 'l', 's', 'e']
  | .number numeral => numeral.text
  | .string text => stringText text
  | .array [] => ['[', ']']
  | .array (head :: rest) =>
      '[' :: newLine (level + 1) ++ head.spread (level + 1) ++ spreadItems (level + 1) rest
        ++ newLine level ++ [']']
  | .object [] => ['\x7b', '\x7d']
  | .object ((key, value) :: rest) =>
      '\x7b' :: newLine (level + 1) ++ stringText key ++ ':' :: ' ' :: value.spread (level + 1)
        ++ spreadMembers (level + 1) rest ++ newLine level ++ ['\x7d']

/-- The items of an array behind the first one. -/
def spreadItems (level : Nat) : List Value → List Char
  | [] => []
  | head :: rest =>
      ',' :: newLine level ++ head.spread level ++ spreadItems level rest

/-- The members of an object behind the first one. -/
def spreadMembers (level : Nat) : List (String × Value) → List Char
  | [] => []
  | (key, value) :: rest =>
      ',' :: newLine level ++ stringText key ++ ':' :: ' ' :: value.spread level
        ++ spreadMembers level rest

end

/-- The text of a value without any white space. -/
def Value.compactText (value : Value) : String := String.ofList value.compact

/-- The text of a value spread over lines. -/
def Value.spreadText (value : Value) : String := String.ofList (value.spread 0)

end ShadowLint.Json
