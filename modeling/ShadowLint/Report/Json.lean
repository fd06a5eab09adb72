import ShadowLint.Json.Value
import ShadowLint.Lint.Message

/-!
# Reports for programs

A JSON report is an array with an object for each message, spread over lines.  The members
of the objects are in the order of their names.
-/

namespace ShadowLint.Report

open Json (Value)
open Lint (Message)

/-- The value of a location or of its absence. -/
def locationValue : Option Text.SourceLocation → Value
  | some place =>
      .object [("column", .ofNat place.column), ("row", .ofNat place.row)]
  | none => .null

/-- The value of a message. -/
def messageValue (message : Message) : Value :=
  .object [
    ("code", .ofString? (message.rule?.map Lint.Rule.name)),
    ("end_location", locationValue message.stop),
    ("filename", .string message.filename),
    ("location", locationValue message.start),
    ("message", .string message.body),
    ("range",
      .array [.ofNat message.range.start.toNat, .ofNat message.range.stop.toNat])]

/-- The report of some messages for programs. -/
def json (messages : List Message) : String :=
  (Value.array (messages.map messageValue)).spreadText ++ "\n"

end ShadowLint.Report
