/-!
# When output is styled

Variables of the environment say whether output is styled.  The first of these that
applies decides: a variable that forces styles, the other one that does, one that forbids
them, and then whether output goes to a terminal.
-/

namespace ShadowLint.Report

/-- The variables of the environment that decide about styles. -/
structure ColorVariables where
  /-- `FORCE_COLOR` -/
  forceColor : Option String
  /-- `NO_COLOR` -/
  noColor : Option String
  /-- `CLICOLOR` -/
  cliColor : Option String
  /-- `CLICOLOR_FORCE` -/
  cliColorForce : Option String
  deriving DecidableEq, Repr

/-- Whether a variable is set to anything but a zero. -/
def isEnabled (variableValue : Option String) : Bool :=
  match variableValue with
  | some value => value ≠ "0"
  | none => false

/-- Whether output is styled. -/
def ColorVariables.colors (vars : ColorVariables) (terminal : Bool) : Bool :=
  if vars.forceColor.getD "" ≠ "" then true
  else if isEnabled vars.cliColorForce then true
  else if vars.noColor.isSome then false
  else (vars.cliColor.isNone || isEnabled vars.cliColor) && terminal

end ShadowLint.Report
