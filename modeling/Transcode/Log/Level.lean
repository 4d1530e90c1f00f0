import Transcode.Fault
import Transcode.Text.Case

/-!
# Log levels

A level is a number; a record is kept where its level is not below the level that is set. Levels
are set by name, in any case. Beside the levels, two reserved names stand for something that is no
level.

## Main definitions

* `Level.meaning?` — what a name stands for;
* `Level.namedOr` — the level of a name, where an unknown name stands for a given level.
-/

namespace Transcode.Log

namespace Level

/-- For details of what happens. -/
def debug : Nat := 10

/-- For what happens as it should. -/
def info : Nat := 20

/-- For what was not expected but does no harm. -/
def warning : Nat := 30

/-- For what could not be done. -/
def error : Nat := 40

/-- For what nothing can be done after. -/
def critical : Nat := 50

/-- The level that keeps every record; a logger with this level takes over that of the loggers
above it. -/
def unset : Nat := 0

/-- What a level is called in a log line. -/
def title (level : Nat) : String :=
  if level = critical then "CRITICAL"
  else if level = error then "ERROR"
  else if level = warning then "WARNING"
  else if level = info then "INFO"
  else if level = debug then "DEBUG"
  else if level = unset then "NOTSET"
  else "Level " ++ toString level

/-! ### Names -/

/-- What a name stands for among the `meanings`. -/
inductive Meaning where
  | level (n : Nat)
  /-- A text, which is no level. -/
  | text (t : String)
  /-- Something that is shown so, and is no level. -/
  | other (shown : String)
  deriving DecidableEq, Repr

/-- The layout of a plain log line. -/
def plainLayout : String := "%(levelname)s:%(name)s:%(message)s"

/-- The known layouts by their sign, as messages show them. -/
def layouts : String :=
  "\x7b'%': (<class 'logging.PercentStyle'>, '%(levelname)s:%(name)s:%(message)s'), "
    ++ "'\x7b': (<class 'logging.StrFormatStyle'>, '\x7blevelname\x7d:\x7bname\x7d:\x7bmessage\x7d'), "
    ++ "'$': (<class 'logging.StringTemplateStyle'>, '$\x7blevelname\x7d:$\x7bname\x7d:$\x7bmessage\x7d')\x7d"

/-- The names that stand for something, in capitals. -/
def meanings : List (String × Meaning) :=
  [("CRITICAL", .level critical), ("FATAL", .level critical), ("ERROR", .level error),
    ("WARNING", .level warning), ("WARN", .level warning), ("INFO", .level info),
    ("DEBUG", .level debug), ("NOTSET", .level unset), ("BASIC_FORMAT", .text plainLayout),
    ("_STYLES", .other layouts)]

/-- The `Meaning` of a name in any case. -/
def meaning? (name : String) : Option Meaning :=
  meanings.lookup (Text.upper name)

/-- The level that is meant, if the `Meaning` is one. -/
def Meaning.level? : Meaning → Except Fault Nat
  | .level n => .ok n
  | .text t => .error (.levelIsText t)
  | .other shown => .error (.levelIsOther shown)

/-- The level of a name by `meaning?`; an unknown name stands for the given level. -/
def namedOr (fallback : Nat) (name : String) : Except Fault Nat :=
  match meaning? name with
  | some meaning => meaning.level?
  | none => .ok fallback

end Level

end Transcode.Log
