import ShadowLint.Derive.Token

/-!
# Documentation of items

An item is explained by its documentation attributes, each of which holds a line or
several; a documentation comment stands for such an attribute.  One blank at the head of
an attribute's text is a separator and does not belong to it.
-/

namespace ShadowLint.Derive

/-- What an attribute holds beside its path. -/
inductive AttributeContent where
  /-- A string literal behind an equals sign. -/
  | text (value : String)
  | other
  deriving DecidableEq, Repr

/-- An attribute of an item. -/
structure Attribute where
  /-- The segments of its path. -/
  path : List String
  content : AttributeContent
  deriving DecidableEq, Repr

namespace Attribute

/-- An attribute that documents an item. -/
def doc (content : AttributeContent) : Attribute := ⟨["doc"], content⟩

/-- Whether an attribute documents its item. -/
def isDoc (a : Attribute) : Bool := a.path = ["doc"]

/-- The segments of a path and the tokens behind it.  A path with separating colons at its head
has an empty first segment. -/
def pathOf : List Token → List String × List Token
  | .word name :: .mark "::" :: rest =>
      let (segments, rest) := pathOf rest
      (name :: segments, rest)
  | .word name :: rest => ([name], rest)
  | .mark "::" :: rest =>
      let (segments, rest) := pathOf rest
      ("" :: segments, rest)
  | rest => ([], rest)

/-- Reads what stands between the brackets of an attribute. -/
def ofSource (source : String) : Attribute :=
  match pathOf (tokens source) with
  | (path, [.mark "=", .text value _]) => ⟨path, .text value⟩
  | (path, _) => ⟨path, .other⟩

end Attribute

/-- The attribute that a comment stands for, if it documents an item. -/
def Comment.attribute? (comment : Comment) : Option Attribute :=
  comment.documentation?.map fun text => .doc (.text text)

/-- Why the documentation of an item is not collected. -/
inductive DocError where
  /-- An attribute documents the item in another form than by a string literal. -/
  | otherForm
  deriving DecidableEq, Repr

/-- The text that a refusal is reported with. -/
def DocError.message : DocError → String
  | .otherForm => "unimplemented doc comment style"

/-- The text of an attribute without the blank that separates it. -/
def dropSeparator (text : String) : String :=
  match text.toList with
  | ' ' :: rest => String.ofList rest
  | _ => text

/-- The explanation that attributes give, with a line feed behind the text of each. -/
def explanation : List Attribute → Except DocError String
  | [] => .ok ""
  | a :: rest =>
      if a.isDoc then
        match a.content with
        | .other => .error .otherForm
        | .text value => do
            let others ← explanation rest
            return dropSeparator value ++ "\n" ++ others
      else explanation rest

end ShadowLint.Derive
