import ShadowLint.Derive.Token

/-!
# Generic items

The parameters of an item and the predicates about them stand in lists with commas between
their members.  A comma separates members only outside all brackets.  Angle brackets are
brackets as well, but not inside others, where their marks may compare numbers.

Wherever names of lifetimes stand in a list of arguments, they are written before the other
arguments.
-/

namespace ShadowLint.Derive

/-! ## Brackets -/

/-- Whether a token opens a bracket that is no angle bracket. -/
def Token.opens (token : Token) : Bool :=
  token = .mark "(" || token = .mark "[" || token = .mark "\x7b"

/-- Whether a token closes a bracket that is no angle bracket. -/
def Token.closes (token : Token) : Bool :=
  token = .mark ")" || token = .mark "]" || token = .mark "\x7d"

/-- How many brackets are open at a place. -/
structure Depth where
  /-- Angle brackets outside all others. -/
  angles : Nat
  /-- The others. -/
  groups : Nat
  deriving DecidableEq, Repr

namespace Depth

/-- The depth outside all brackets. -/
def outside : Depth := ⟨0, 0⟩

/-- The depth behind a token. -/
def behind (depth : Depth) (token : Token) : Depth :=
  if token.opens then { depth with groups := depth.groups + 1 }
  else if token.closes then { depth with groups := depth.groups - 1 }
  else if depth.groups ≠ 0 then depth
  else if token = .mark "<" then { depth with angles := depth.angles + 1 }
  else if token = .mark ">" then { depth with angles := depth.angles - 1 }
  else depth

end Depth

/-- The members of a list of tokens.  The last one is what follows the last comma, and it may
be empty. -/
def members (depth : Depth) : List Token → List (List Token)
  | [] => [[]]
  | token :: rest =>
      if depth = .outside && token = .mark "," then [] :: members depth rest
      else
        match members (depth.behind token) rest with
        | [] => [[token]]
        | first :: others => (token :: first) :: others

/-- The tokens in front of the first equals sign outside all brackets. -/
def beforeDefault (depth : Depth) : List Token → List Token
  | [] => []
  | token :: rest =>
      if depth = .outside && token = .mark "=" then []
      else token :: beforeDefault (depth.behind token) rest

/-! ## Arguments -/

/-- An open bracket and the tokens behind it. -/
structure OpenBracket where
  /-- Whether it is an angle bracket. -/
  isAngle : Bool
  /-- Whether a brace is open, so that marks may compare numbers. -/
  inBraces : Bool
  /-- The complete arguments, each with its comma. -/
  complete : List (List Token)
  current : List Token
  deriving DecidableEq, Repr

namespace OpenBracket

/-- The start of a list of tokens, outside all brackets. -/
def start : OpenBracket := ⟨false, false, [], []⟩

/-- The bracket that a token opens. -/
def opened (bracket : OpenBracket) (token : Token) : OpenBracket :=
  ⟨token = .mark "<", bracket.inBraces || token = .mark "\x7b", [], []⟩

/-- Adds tokens. -/
def add (bracket : OpenBracket) (row : List Token) : OpenBracket :=
  { bracket with current := bracket.current ++ row }

/-- Adds the comma that completes an argument. -/
def addComma (bracket : OpenBracket) : OpenBracket :=
  { bracket with
    complete := bracket.complete ++ [bracket.current ++ [.mark ","]]
    current := [] }

/-- The tokens in their order. -/
def content (bracket : OpenBracket) : List Token :=
  bracket.complete.flatten ++ bracket.current

/-- Whether an argument is the name of a lifetime. -/
def isLifetime : List Token → Bool
  | .lifetime _ :: _ => true
  | _ => false

/-- The arguments with lifetimes before all others. -/
def arranged (bracket : OpenBracket) : List Token :=
  let arguments := bracket.complete ++ [bracket.current]
  let lifetimes := (arguments.filter isLifetime).flatten
  let others := (arguments.filter fun argument => !isLifetime argument).flatten
  let comma :=
    if isLifetime bracket.current && !others.isEmpty then [Token.mark ","] else []
  lifetimes ++ comma ++ others

end OpenBracket

/-- Tokens with the arguments in all angle brackets arranged.  `bracket` is the innermost open
bracket and `outer` are those around it. -/
def arrangeFrom (bracket : OpenBracket) (outer : List OpenBracket) : List Token → List Token
  | [] => ((bracket :: outer).reverse.map OpenBracket.content).flatten
  | token :: rest =>
      if token.opens || (token = .mark "<" && !bracket.inBraces) then
        arrangeFrom (bracket.opened token) (bracket.add [token] :: outer) rest
      else
        match outer with
        | [] => arrangeFrom (bracket.add [token]) [] rest
        | next :: others =>
            if token.closes then
              arrangeFrom (next.add (bracket.content ++ [token])) others rest
            else if !bracket.isAngle then arrangeFrom (bracket.add [token]) outer rest
            else if token = .mark ">" then
              arrangeFrom (next.add (bracket.arranged ++ [token])) others rest
            else if token = .mark "," then arrangeFrom bracket.addComma outer rest
            else arrangeFrom (bracket.add [token]) outer rest

/-- Tokens with the arguments in all angle brackets arranged. -/
def arrange (row : List Token) : List Token := arrangeFrom .start [] row

/-! ## Parameters -/

/-- The kinds of parameters of a generic item. -/
inductive ParameterKind where
  | lifetime
  | type
  | value
  deriving DecidableEq, Repr

/-- A parameter of a generic item. -/
structure Parameter where
  kind : ParameterKind
  name : String
  /-- The parameter with its attributes and bounds and without its default. -/
  declaration : String
  /-- Whether a comma stands behind it. -/
  hasComma : Bool
  deriving DecidableEq, Repr

/-- What follows the attributes at the head of tokens; `depth` is the number of brackets that
are open. -/
def dropAttributes : Nat → List Token → List Token
  | _, [] => []
  | 0, token :: rest =>
      if token = .mark "#" then dropAttributes 0 rest
      else if token = .mark "[" then dropAttributes 1 rest
      else token :: rest
  | depth + 1, token :: rest =>
      if token.opens then dropAttributes (depth + 2) rest
      else if token.closes then dropAttributes depth rest
      else dropAttributes (depth + 1) rest

/-- Leaves out a colon that no bound follows. -/
def dropBareColon (row : List Token) : List Token :=
  if row.getLast? = some (.mark ":") then row.dropLast else row

namespace Parameter

/-- Reads a parameter. -/
def ofTokens (hasComma : Bool) (row : List Token) : Parameter :=
  let declaration := writtenTogether (dropBareColon (beforeDefault .outside row))
  match dropAttributes 0 row with
  | .lifetime name :: _ => ⟨.lifetime, name, declaration, hasComma⟩
  | .word "const" :: name :: _ => ⟨.value, name.written, declaration, hasComma⟩
  | name :: _ => ⟨.type, name.written, declaration, hasComma⟩
  | [] => ⟨.type, "", declaration, hasComma⟩

/-- Reads the members of a list of parameters; the last one is none if it is empty. -/
def ofMembers : List (List Token) → List Parameter
  | [] => []
  | [last] => if last.isEmpty then [] else [ofTokens false last]
  | row :: rest => ofTokens true row :: ofMembers rest

/-- Reads parameters. -/
def ofSources (sources : List String) : List Parameter :=
  ofMembers (members .outside (arrange (listTokens sources)))

/-- Whether a parameter is a lifetime. -/
def isLifetime (p : Parameter) : Bool := p.kind = .lifetime

/-- The parameters of an item, lifetimes before all others. -/
def inOrder (parameters : List Parameter) : List Parameter :=
  parameters.filter isLifetime ++ parameters.filter fun p => !p.isLifetime

/-- The name of a parameter with the comma behind it. -/
def argument (p : Parameter) : String :=
  if p.hasComma then p.name ++ "," else p.name

/-- The names of parameters, lifetimes before all others.  Each keeps the comma behind it, and
there is a comma behind the last lifetime in any case if others follow. -/
def arguments (parameters : List Parameter) : String :=
  let lifetimes := parameters.filter isLifetime
  let others := parameters.filter fun p => !p.isLifetime
  let lacksComma := lifetimes.getLast?.any fun p => !p.hasComma
  String.join (lifetimes.map argument)
    ++ (if lacksComma && !others.isEmpty then "," else "")
    ++ String.join (others.map argument)

end Parameter

/-! ## Predicates -/

/-- The predicates that sources hold. -/
def predicatesOf (sources : List String) : List String :=
  ((members .outside (arrange (listTokens sources))).filter fun row => !row.isEmpty).map
    writtenTogether

end ShadowLint.Derive
