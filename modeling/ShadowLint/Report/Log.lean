import ShadowLint.Report.Style

/-!
# Log lines

The verbosity of a run decides which records are shown: none, those up to `info`, or those
up to `debug`.  An error or a warning is shown for people; any other record is shown with
the time, the part of the program that it comes from, and its severity.
-/

namespace ShadowLint.Report

/-- How grave a record is, from the gravest on. -/
inductive Severity where
  | error
  | warning
  | info
  | debug
  | trace
  deriving DecidableEq, Repr

namespace Severity

/-- The place of a severity, counted from the gravest. -/
def rank : Severity → Nat
  | error => 1
  | warning => 2
  | info => 3
  | debug => 4
  | trace => 5

/-- The name of a severity in log lines. -/
def name : Severity → String
  | error => "ERROR"
  | warning => "WARN"
  | info => "INFO"
  | debug => "DEBUG"
  | trace => "TRACE"

end Severity

/-- How much a run says, from nothing on. -/
inductive Verbosity where
  /-- Nothing at all. -/
  | silent
  /-- Findings only. -/
  | quiet
  | normal
  /-- Findings and what the run does. -/
  | verbose
  deriving DecidableEq, Repr

namespace Verbosity

/-- The least grave severity that is shown, if any is. -/
def threshold : Verbosity → Option Severity
  | silent => none
  | quiet => none
  | normal => some .info
  | verbose => some .debug

/-- Whether the records of a severity are shown. -/
def shows (verbosity : Verbosity) (severity : Severity) : Bool :=
  match verbosity.threshold with
  | some least => severity.rank ≤ least.rank
  | none => false

/-- Whether a report of findings ends with a summary. -/
def showsSummary : Verbosity → Bool
  | silent => false
  | quiet => false
  | normal => true
  | verbose => true

end Verbosity

/-- Something that a run says beside its output. -/
structure Record where
  severity : Severity
  /-- The part of the program that speaks. -/
  target : String
  message : String
  deriving DecidableEq, Repr

namespace Record

/-- A record for the developers of the program. -/
def debug (target message : String) : Record := ⟨.debug, target, message⟩

/-- A warning to the user, in bold. -/
def warning (colors : Bool) (message : String) : Record :=
  ⟨.warning, "shade", Style.bold.paint colors message⟩

/-- A record as a line; `stamp` is the time in brackets. -/
def line (colors : Bool) (stamp : String) (record : Record) : String :=
  match record.severity with
  | .error =>
      Style.boldRed.paint colors "error" ++ Style.bold.paint colors ":" ++ " " ++ record.message
        ++ "\n"
  | .warning =>
      Style.boldYellow.paint colors "warning" ++ Style.bold.paint colors ":" ++ " "
        ++ record.message ++ "\n"
  | severity =>
      stamp ++ "[" ++ record.target ++ "][" ++ severity.name ++ "] " ++ record.message ++ "\n"

end Record

/-! ## The log of a run -/

/-- Why a log was not set up. -/
inductive LogError where
  | alreadySetUp
  deriving DecidableEq, Repr

/-- The text that a refused set-up is reported with. -/
def LogError.message : LogError → String
  | .alreadySetUp =>
      "attempted to set a logger after the logging system was already initialized"

/-- The log of a run, with its verbosity from the moment of its set-up on. -/
structure Log where
  verbosity : Option Verbosity
  deriving DecidableEq, Repr

namespace Log

/-- The log before it is set up. -/
def fresh : Log := ⟨none⟩

/-- Sets up a log, which can be done once. -/
def setUp (log : Log) (verbosity : Verbosity) : Except LogError Log :=
  match log.verbosity with
  | none => .ok ⟨some verbosity⟩
  | some _ => .error .alreadySetUp

/-- The least grave severity that the log shows, if it shows any. -/
def threshold (log : Log) : Option Severity :=
  log.verbosity.bind Verbosity.threshold

/-- The lines of the records that the log shows. -/
def text (log : Log) (colors : Bool) (stamp : String) (records : List Record) : String :=
  match log.verbosity with
  | none => ""
  | some verbosity =>
      String.join
        ((records.filter fun record => verbosity.shows record.severity).map
          (Record.line colors stamp))

end Log

end ShadowLint.Report
