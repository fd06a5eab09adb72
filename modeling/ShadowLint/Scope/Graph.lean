/-!
# Scope graphs

A scope graph is what a front end hands over about a program: the scopes with the
variables that each of them declares, and the syntax nodes in the order in which a walk
over the program visits them.  Scopes refer to each other by position; the first one is
the global scope, and every other one names an earlier one as its parent.

A graph is only the content of a document.  Whether its references make a tree is decided
when a model is built from it.
-/

namespace ShadowLint.Scope

/-- A range of bytes in a source text. -/
structure TextRange where
  start : UInt32
  stop : UInt32
  start_le_stop : start ≤ stop
  deriving DecidableEq, Repr

/-- The range between two offsets, or `none` where the second lies before the first. -/
def TextRange.of? (start stop : UInt32) : Option TextRange :=
  if h : start ≤ stop then some ⟨start, stop, h⟩ else none

/-- A name bound in a scope, with the places that declare it in source order.  A name that
the language provides by itself, such as a function's `arguments`, has no such place. -/
structure Variable where
  name : String
  identifiers : List TextRange
  deriving DecidableEq, Repr

/-- Whether the source itself declares the variable. -/
def Variable.isDeclared (v : Variable) : Bool := !v.identifiers.isEmpty

/-- The first place that declares the variable. -/
def Variable.declaration? (v : Variable) : Option TextRange := v.identifiers.head?

/-- The kinds of syntax nodes. -/
inductive NodeKind where
  | program
  | functionDeclaration
  | functionExpression
  | arrowFunctionExpression
  | classDeclaration
  | classExpression
  | blockStatement
  | catchClause
  | forStatement
  | forInStatement
  | forOfStatement
  | switchStatement
  | withStatement
  /-- Every kind that needs no treatment of its own. -/
  | other
  deriving DecidableEq, Repr

namespace NodeKind

/-- The name of a kind in documents. -/
def name : NodeKind → String
  | program => "Program"
  | functionDeclaration => "FunctionDeclaration"
  | functionExpression => "FunctionExpression"
  | arrowFunctionExpression => "ArrowFunctionExpression"
  | classDeclaration => "ClassDeclaration"
  | classExpression => "ClassExpression"
  | blockStatement => "BlockStatement"
  | catchClause => "CatchClause"
  | forStatement => "ForStatement"
  | forInStatement => "ForInStatement"
  | forOfStatement => "ForOfStatement"
  | switchStatement => "SwitchStatement"
  | withStatement => "WithStatement"
  | other => "Other"

/-- The kinds that have a name of their own. -/
def named : List NodeKind :=
  [program, functionDeclaration, functionExpression, arrowFunctionExpression, classDeclaration,
    classExpression, blockStatement, catchClause, forStatement, forInStatement, forOfStatement,
    switchStatement, withStatement]

/-- The kind of a name; every unknown name is of the remaining kind. -/
def ofName (text : String) : NodeKind :=
  (named.find? fun kind => kind.name = text).getD other

end NodeKind

/-- A scope in a document. -/
structure ScopeEntry where
  parent : Option UInt32
  vars : List Variable
  deriving DecidableEq, Repr

/-- A visited node in a document, with the scope that is current at it. -/
structure NodeEntry where
  kind : NodeKind
  scope : UInt32
  range : Option TextRange
  deriving DecidableEq, Repr

/-- The content of a scope-graph document. -/
structure ScopeGraph where
  /-- The text that the graph was made from. -/
  source : Option String
  scopes : List ScopeEntry
  nodes : List NodeEntry
  deriving DecidableEq, Repr

end ShadowLint.Scope
