import Transcode.Files
import Transcode.Log.Level

/-!
# Loggers

A logger has a level and handlers. Each handler has a level of its own and writes either to the
console or to a file.

Whether a logger lets the records of a level through is decided when the first one comes, and the
decision stands until it is forgotten.

## Main definitions

* `Sink`, `Handler`, `Logger` — a logger with its handlers;
* `Logger.setLevel` — the level of a logger and of all its handlers;
* `Logger.remember`, `Logger.forget` — what has been decided.
-/

namespace Transcode.Log

/-- Where a handler writes. -/
inductive Sink where
  | console
  | file (location : Location)
  deriving DecidableEq, Repr

/-- A handler writes the records that are not below its level to its `Sink`. -/
structure Handler where
  sink : Sink
  level : Nat
  deriving DecidableEq, Repr

/-- A logger. Level zero is none of its own. -/
structure Logger where
  level : Nat := Level.unset
  handlers : List Handler := []
  /-- For each level that has been decided on, whether its records are let through. -/
  decisions : List (Nat × Bool) := []
  deriving DecidableEq, Repr

namespace Logger

/-- A logger that has been set to a level, with all its `handlers`. -/
def setLevel (level : Nat) (logger : Logger) : Logger :=
  { logger with level, handlers := logger.handlers.map fun handler => { handler with level } }

/-- What has been decided on a level, among the `decisions`. -/
def decision? (logger : Logger) (level : Nat) : Option Bool :=
  logger.decisions.lookup level

/-- A decision on a level, unless there has been one. -/
def remember (level : Nat) (verdict : Bool) (logger : Logger) : Logger :=
  if (logger.decision? level).isSome then logger
  else { logger with decisions := (level, verdict) :: logger.decisions }

/-- A logger without its decisions. -/
def forget (logger : Logger) : Logger :=
  { logger with decisions := [] }

end Logger

end Transcode.Log
