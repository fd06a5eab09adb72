import ShadowLint.Derive.Body

/-!
# Message formats

A function that makes a message ends, on every path through it, in a call of `format!`.
`formats` collects the formats of these calls, from the first path to the last, or says
what stands at the first place where such a call should be and is not.  `Method.expand` leaves
the method as it is and puts one behind it that answers with its formats, or else gives the
error alone.
-/

namespace ShadowLint.Derive

/-- Why the formats of a function are not collected. -/
inductive FormatError where
  /-- A block does not end in an expression. -/
  | noResult
  /-- A `format!` has no argument. -/
  | noFormat
  /-- A path ends in something else than a `format!`. -/
  | otherResult
  deriving DecidableEq, Repr

/-- The text that a refusal is reported with. -/
def FormatError.message : FormatError → String
  | .noResult => "expected last statement in block to be an expression"
  | .noFormat => "expected `format!` to have an argument"
  | .otherResult => "expected last expression to be a `format!` macro or a match block"

/-- The format of a call of a macro: the first token tree of its arguments. -/
def formatOfCall (path : String) (arguments : List TokenTree) : Except FormatError TokenTree :=
  if compact path = "format" then
    match arguments with
    | [] => .error .noFormat
    | first :: _ => .ok first
  else .error .otherResult

mutual

/-- The formats of an expression. -/
def Expr.formats : Expr → Except FormatError (List TokenTree)
  | .macroCall path arguments _ => (formatOfCall path arguments).map fun format => [format]
  | .block body => blockFormats body
  | .ifThen consequence => blockFormats consequence
  | .ifElse consequence alternative => do
      let first ← blockFormats consequence
      let second ← alternative.formats
      return first ++ second
  | .select arms => armFormats arms
  | _ => .error .otherResult

/-- The formats of a statement that ends a block. -/
def Statement.formats : Statement → Except FormatError (List TokenTree)
  | .binding _ => .error .noResult
  | .item _ => .error .noResult
  | .closed expr =>
      match expr with
      | .macroCall .. => .error .noResult
      | _ => expr.formats
  | .bare expr =>
      match expr with
      | .macroCall _ _ .braces => .error .noResult
      | _ => expr.formats

/-- The formats of a block. -/
def blockFormats : List Statement → Except FormatError (List TokenTree)
  | [] => .error .noResult
  | [last] => last.formats
  | _ :: rest => blockFormats rest

/-- The formats of the arms of a selection. -/
def armFormats : List Expr → Except FormatError (List TokenTree)
  | [] => .ok []
  | arm :: rest => do
      let first ← arm.formats
      let others ← armFormats rest
      return first ++ others

end

/-! ## What a method is replaced by -/

/-- A method that makes a message. -/
structure Method where
  /-- Its attributes, its visibility and its signature. -/
  head : String
  body : List Statement

/-- An item that stands where a method stood. -/
inductive GeneratedItem where
  /-- A method as it was written. -/
  | method (method : Method)
  /-- A method that answers with formats, with a comma behind each of them. -/
  | messageFormats (formats : List TokenTree)
  /-- A call that makes the compiler report an error. -/
  | compileError (text : String)

/-- The items that stand where a method stood: the method itself and one that answers with its
formats, or only the error. -/
def Method.expand (method : Method) : List GeneratedItem :=
  match blockFormats method.body with
  | .ok formats => [.method method, .messageFormats formats]
  | .error error => [.compileError error.message]

end ShadowLint.Derive
