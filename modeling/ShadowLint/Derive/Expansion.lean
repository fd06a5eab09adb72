import ShadowLint.Derive.Formats
import ShadowLint.Derive.Index
import ShadowLint.Derive.Metadata

/-!
# Generators at work

A generator is applied to an item where the item is compiled.  It first looks whether the
item is of a kind that it takes, and then at the item itself.
-/

namespace ShadowLint.Derive

/-- The generators. -/
inductive Generator where
  | newtypeIndex
  | violationMetadata
  | messageFormats
  deriving DecidableEq, Repr

/-- The kinds of items. -/
inductive ItemKind where
  | structure_
  | enumeration
  | union
  | function
  | asyncFunction
  | constant
  | static
  | alias
  | trait
  | implementation
  | module_
  | import_
  deriving DecidableEq, Repr

/-- Why the application of a generator does not compile. -/
inductive ExpansionError where
  /-- The item is of another kind than the generator takes. -/
  | expectedKeyword (keyword : String)
  | index (error : IndexError)
  | docs (error : DocError)
  /-- The refusal of a method's formats stands among items without a semicolon. -/
  | formats (error : FormatError)
  deriving DecidableEq, Repr

/-- The text of the first error that the compiler shows. -/
def ExpansionError.message : ExpansionError → String
  | .expectedKeyword keyword => "expected `" ++ keyword ++ "`"
  | .index error => error.message
  | .docs error => error.message
  | .formats _ =>
      "macros that expand to items must be delimited with braces or followed by a semicolon"

/-- Looks whether a generator takes items of a kind. -/
def Generator.accepts (generator : Generator) (kind : ItemKind) : Except ExpansionError Unit :=
  match generator with
  | .newtypeIndex =>
      if kind = .structure_ then .ok () else .error (.expectedKeyword "struct")
  | .messageFormats =>
      if kind = .function ∨ kind = .asyncFunction then .ok ()
      else .error (.expectedKeyword "fn")
  | .violationMetadata => .ok ()

/-- Applies the generator of index types. -/
def expandIndex (item : IndexItem) : Except ExpansionError Unit :=
  match item.generate with
  | .ok _ => .ok ()
  | .error error => .error (.index error)

/-- Applies the generator of metadata. -/
def expandViolation (item : ViolationItem) : Except ExpansionError Unit :=
  match item.metadata with
  | .ok _ => .ok ()
  | .error error => .error (.docs error)

/-- Applies the generator of message formats to a method. -/
def expandFormats (body : List Statement) : Except ExpansionError Unit :=
  match blockFormats body with
  | .ok _ => .ok ()
  | .error error => .error (.formats error)

end ShadowLint.Derive
