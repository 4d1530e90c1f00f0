import Transcode.Log.Level
import Transcode.Text.Quoted
import Transcode.Text.SystemName

/-!
# Log records

A record is a message with its level and the name of the logger that it was given to. A handler
writes it as one line, with the time at its head.
-/

namespace Transcode.Log

/-- A message for the log. -/
structure Record where
  level : Nat
  logger : Text
  message : Text
  deriving DecidableEq, Repr

/-- A text filled up with blanks on the right. -/
def padded (width : Nat) (text : String) : String :=
  text ++ String.ofList (List.replicate (width - text.length) ' ')

/-- The line for a record, with its end: the time, the `Level.title` in eight columns, the name of
the logger and the message. -/
def Record.line (time : String) (r : Record) : Text :=
  .ofString (time ++ " | " ++ padded 8 (Level.title r.level) ++ " | ") ++ r.logger
    ++ .ofString " | " ++ r.message ++ .ofString "\n"

/-- The report of a record whose line has no bytes, without the places in the program. -/
def Record.report (r : Record) (fault : Text.SystemName.Fault) : String :=
  "--- Logging error ---\nTraceback (most recent call last):\nUnicodeEncodeError: "
    ++ fault.message ++ "\nCall stack:\nMessage: " ++ Text.quoted r.message ++ "\nArguments: ()\n"

end Transcode.Log
