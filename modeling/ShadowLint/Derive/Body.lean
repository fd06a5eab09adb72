import ShadowLint.Derive.Token

/-!
# Bodies of functions

The part of function bodies that matters to where a function's result comes from:
statements, blocks, branches and calls of macros.

A call of a macro that stands as a statement with a semicolon, or with braces around its
arguments, is a statement of its own kind and no expression.  In every other place a call
of a macro is an expression.

A macro gets its arguments as they are written, with their commas: as a row of token trees,
in which everything between two brackets is one tree.
-/

namespace ShadowLint.Derive

/-- A pair of brackets. -/
inductive Delimiter where
  | parentheses
  | brackets
  | braces
  deriving DecidableEq, Repr

/-- A token tree. -/
inductive TokenTree where
  /-- A token that is no bracket. -/
  | single (token : Token)
  /-- A row of trees between two brackets, or one that belongs together without any. -/
  | group (delimiter : Option Delimiter) (content : List TokenTree)
  deriving Repr

mutual

/-- An expression. -/
inductive Expr where
  | macroCall (path : String) (arguments : List TokenTree) (delimiter : Delimiter)
  | block (body : List Statement)
  | unsafeBlock (body : List Statement)
  /-- A branch without an alternative. -/
  | ifThen (consequence : List Statement)
  | ifElse (consequence : List Statement) (alternative : Expr)
  /-- A selection, with the bodies of its arms. -/
  | select (arms : List Expr)
  | parenthesized (inner : Expr)
  | returning (value : Expr)
  | call (name : String)
  | literal (text : String)

/-- A statement. -/
inductive Statement where
  /-- A local variable. -/
  | binding (name : String)
  /-- A function inside the function. -/
  | item (name : String)
  /-- An expression with a semicolon. -/
  | closed (expr : Expr)
  /-- An expression without a semicolon. -/
  | bare (expr : Expr)

end

instance : Inhabited Expr := ⟨.call ""⟩
instance : Inhabited Statement := ⟨.binding ""⟩

/-- The expression that a statement consists of, if it is one. -/
def Statement.expr? : Statement → Option Expr
  | .binding _ => none
  | .item _ => none
  | .closed (.macroCall ..) => none
  | .closed expr => some expr
  | .bare (.macroCall _ _ .braces) => none
  | .bare expr => some expr

end ShadowLint.Derive
