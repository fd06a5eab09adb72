import ShadowLint.Json.Token

/-!
# JSON documents, complete or not

`Doc.ofTokens` arranges tokens into a tree.  A text that is not JSON gives a tree as well:
whatever stands to the left of the first fault, with the fault itself at the place where a
reader going from left to right meets it.  What a schema makes of a text is therefore a
question about the tree alone, and the fault and the schema's own complaints come in the
right order by themselves.

Nothing to the right of a fault matters, because no reader gets there.
-/

namespace ShadowLint.Json

mutual

/-- What stands where a value is due. -/
inductive Doc where
  /-- The text ends. -/
  | missing
  /-- Something that is no value and no string. -/
  | broken (kept skipped : Damage)
  /-- A string that does not end properly. -/
  | brokenString (kept skipped : Damage)
  | null
  | bool (value : Bool)
  | number (numeral : Numeral)
  /-- A string, without a text where one of its surrogates is unpaired. -/
  | string (text : Option String)
  | array (items : Items)
  | object (members : Members)

/-- The rest of an array. -/
inductive Items where
  | closed
  /-- Neither a comma nor a bracket stands where one of them is due. -/
  | cut (damage : Damage)
  | item (head : Doc) (rest : Items)

/-- The rest of an object. -/
inductive Members where
  | closed
  /-- Neither a comma nor a brace stands where one of them is due. -/
  | cut (damage : Damage)
  /-- Something else than a complete string, or nothing, stands where a key is due. -/
  | stray (found : Option Token)
  /-- A key, without a text where one of its surrogates is unpaired, and its value. -/
  | member (key : Option String) (value : Doc) (rest : Members)

end

instance : Inhabited Doc := ⟨.missing⟩
instance : Inhabited Items := ⟨.closed⟩
instance : Inhabited Members := ⟨.closed⟩

/-! ## From tokens -/

mutual

/-- The value at the head of a row of tokens, and the tokens behind it; none of them are
left behind a fault. -/
def Doc.take : Nat → List Token → Doc × List Token
  | 0, _ => (.missing, [])
  | _ + 1, [] => (.missing, [])
  | fuel + 1, token :: rest =>
      match token with
      | .null => (.null, rest)
      | .bool value => (.bool value, rest)
      | .number numeral => (.number numeral, rest)
      | .string text => (.string text, rest)
      | .brokenString kept skipped => (.brokenString kept skipped, [])
      | .brokenScalar kept skipped => (.broken kept skipped, [])
      | .leftBracket =>
          match Items.takeFirst fuel rest with
          | (items, rest) => (.array items, rest)
      | .leftBrace =>
          match Members.takeFirst fuel rest with
          | (members, rest) => (.object members, rest)
      | _ => (.broken .malformed .malformed, [])

/-- The items of an array from behind its opening bracket. -/
def Items.takeFirst : Nat → List Token → Items × List Token
  | 0, _ => (.cut .endOfText, [])
  | _ + 1, [] => (.cut .endOfText, [])
  | _ + 1, .rightBracket :: rest => (.closed, rest)
  | fuel + 1, tokens => Items.takeItem fuel tokens

/-- The items of an array from where one of them is due. -/
def Items.takeItem : Nat → List Token → Items × List Token
  | 0, _ => (.cut .endOfText, [])
  | fuel + 1, tokens =>
      match Doc.take fuel tokens with
      | (head, rest) =>
          match Items.takeMore fuel rest with
          | (items, rest) => (.item head items, rest)

/-- The items of an array from behind one of them. -/
def Items.takeMore : Nat → List Token → Items × List Token
  | 0, _ => (.cut .endOfText, [])
  | _ + 1, [] => (.cut .endOfText, [])
  | _ + 1, .rightBracket :: rest => (.closed, rest)
  | fuel + 1, .comma :: rest => Items.takeItem fuel rest
  | _ + 1, _ => (.cut .malformed, [])

/-- The members of an object from behind its opening brace. -/
def Members.takeFirst : Nat → List Token → Members × List Token
  | 0, _ => (.cut .endOfText, [])
  | _ + 1, .rightBrace :: rest => (.closed, rest)
  | fuel + 1, tokens => Members.takeMember fuel tokens

/-- The members of an object from where a key is due. -/
def Members.takeMember : Nat → List Token → Members × List Token
  | 0, _ => (.cut .endOfText, [])
  | _ + 1, [] => (.stray none, [])
  | fuel + 1, .string key :: rest =>
      match Doc.takeValue fuel rest with
      | (value, rest) =>
          match Members.takeMore fuel rest with
          | (members, rest) => (.member key value members, rest)
  | _ + 1, token :: _ => (.stray (some token), [])

/-- The value of a member from behind its key. -/
def Doc.takeValue : Nat → List Token → Doc × List Token
  | 0, _ => (.missing, [])
  | _ + 1, [] => (.missing, [])
  | fuel + 1, .colon :: rest => Doc.take fuel rest
  | _ + 1, _ => (.broken .malformed .malformed, [])

/-- The members of an object from behind one of them. -/
def Members.takeMore : Nat → List Token → Members × List Token
  | 0, _ => (.cut .endOfText, [])
  | _ + 1, [] => (.cut .endOfText, [])
  | _ + 1, .rightBrace :: rest => (.closed, rest)
  | fuel + 1, .comma :: rest => Members.takeMember fuel rest
  | _ + 1, _ => (.cut .malformed, [])

end

/-- The value at the head of a row of tokens, and the tokens behind it.  No more than three
steps are taken for a token. -/
def Doc.ofTokens (tokens : List Token) : Doc × List Token :=
  Doc.take (3 * tokens.length + 1) tokens

/-! ## Skipped values -/

mutual

/-- What is wrong with a value that is skipped, if anything. -/
def Doc.fault? : Doc → Option Damage
  | .missing => some .endOfText
  | .broken _ skipped => some skipped
  | .brokenString _ skipped => some skipped
  | .array items => items.fault?
  | .object members => members.fault?
  | _ => none

/-- What is wrong with the rest of an array that is skipped, if anything. -/
def Items.fault? : Items → Option Damage
  | .closed => none
  | .cut damage => some damage
  | .item head rest => head.fault?.or rest.fault?

/-- What is wrong with the rest of an object that is skipped, if anything. -/
def Members.fault? : Members → Option Damage
  | .closed => none
  | .cut damage => some damage
  | .stray none => some .endOfText
  | .stray (some (.brokenString _ skipped)) => some skipped
  | .stray (some _) => some .malformed
  | .member _ value rest => value.fault?.or rest.fault?

end

end ShadowLint.Json
