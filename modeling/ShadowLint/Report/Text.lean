import ShadowLint.Lint.Message
import ShadowLint.Report.Style

/-!
# Reports for people

A text report has a line for each message: the file, the place, the code and what is said.
The place is a row and a column, or the range of bytes where the source text is not known.
-/

namespace ShadowLint.Report

open Lint (Message)

/-- The place of a message with a colon behind each part of it. -/
def placePieces (colors : Bool) (message : Message) : List String :=
  match message.start with
  | some place =>
      [toString place.row, Style.cyan.paint colors ":", toString place.column,
        Style.cyan.paint colors ":"]
  | none =>
      [toString message.range.start.toNat, "..", toString message.range.stop.toNat,
        Style.cyan.paint colors ":"]

/-- The line of a message, in the pieces in which it is written. -/
def linePieces (colors : Bool) (message : Message) : List String :=
  [Style.bold.paint colors message.filename, Style.cyan.paint colors ":"]
    ++ placePieces colors message
    ++ [" ", Style.boldRed.paint colors message.code, " ", message.body, "\n"]

/-- The pieces of the report of some messages. -/
def textPieces (colors : Bool) (messages : List Message) : List String :=
  messages.flatMap (linePieces colors)

/-- The report of some messages for people. -/
def text (colors : Bool) (messages : List Message) : String :=
  String.join (textPieces colors messages)

/-- The last line of a report, which counts its messages. -/
def summary (messages : List Message) : String :=
  match messages.length with
  | 0 => "All checks passed!\n"
  | 1 => "Found 1 error.\n"
  | count => "Found " ++ toString count ++ " errors.\n"

end ShadowLint.Report
