import ShadowLint.Command.Help
import ShadowLint.Command.Run
import ShadowLint.Report.Color
import ShadowLint.Report.Duration
import Std.Time.Format

/-!
# The program

What stands at the paths that a run looks at, the variables of the environment and the
clocks are read here, and what the run writes is printed.  Nothing is decided here.
-/

namespace ShadowLint.Command

open Files (Entry Snapshot)

/-- Whether a regular file stands at a path. -/
def isRegular (path : String) : IO Bool := do
  match ← (do (← IO.FS.realPath path).metadata : IO IO.FS.Metadata).toBaseIO with
  | .ok metadata => return metadata.type == .file
  | .error _ => return false

/-- The entry at a path where the kind of thing is not the right one, from the code of the
refusal.  Some parts of the system give the code with a minus sign. -/
def misplacedEntry (code : UInt32) : Entry :=
  if code = 21 ∨ code = -21 then .directory
  else if code = 20 ∨ code = -20 then .belowFile
  else .absent

/-- What stands at a path. -/
def observe (path : String) : IO Entry := do
  let regular ← isRegular path
  match ← (IO.FS.readBinFile path).toBaseIO with
  | .ok content => return if regular then .file content else .stream content
  | .error (.noFileOrDirectory ..) => return .absent
  | .error (.inappropriateType _ code _) => return misplacedEntry code
  | .error (.permissionDenied _ code details) =>
      return .refused regular (details ++ " (os error " ++ toString code ++ ")")
  | .error other => return .refused regular (toString other)

/-- What stands at some paths. -/
def survey (paths : List String) : IO Snapshot := do
  let entries ← paths.mapM fun path => return (path, ← observe path)
  return .ofList entries

/-- Whether output is styled. -/
def outputColors : IO Bool := do
  let vars : Report.ColorVariables :=
    ⟨← IO.getEnv "FORCE_COLOR", ← IO.getEnv "NO_COLOR", ← IO.getEnv "CLICOLOR",
      ← IO.getEnv "CLICOLOR_FORCE"⟩
  return vars.colors (← (← IO.getStdout).isTty)

/-- The time of the day, as log lines begin with it. -/
def timeStamp : IO String := do
  return (← Std.Time.PlainDateTime.now).format "'['uuuu-MM-dd']['HH:mm:ss']'"

/-- Carries out a command line, once to see how long it takes and once to report that. -/
def Invocation.perform (invocation : Invocation) : IO Outcome := do
  let directory := (← IO.currentDir).toString
  let environment : Environment := {
    files := ← survey (invocation.paths directory)
    directory
    colors := ← outputColors
    stamp := ← timeStamp
    elapsed := "" }
  let start ← IO.monoNanosNow
  let outcome ← IO.lazyPure fun _ => invocation.run environment
  let stop ← IO.monoNanosNow
  if invocation.verbosity ≠ .verbose then return outcome
  return invocation.run { environment with elapsed := Report.durationText (stop - start) }

/-- Prints the answer to a command line that leads to no run. -/
def Usage.show (usage : Usage) : IO Unit :=
  if usage.isRequest then IO.print usage.text else IO.eprint usage.text

end ShadowLint.Command

open ShadowLint.Command in
/-- Carries out the command line that the program was started with. -/
def main (words : List String) : IO UInt32 := do
  match Invocation.ofWords words with
  | .error usage =>
      usage.show
      return usage.code
  | .ok invocation =>
      let outcome ← invocation.perform
      IO.eprint outcome.stderr
      IO.print outcome.stdout
      return outcome.status.code
