import Transcode.Proofs.Session.Changes

/-!
# Handlers of loggers

A logger has no handlers, or one for the console, or that one and one for a file behind it, and each
handler has the level of its logger. This is so in every session that was fresh once: every change
of the loggers preserves it, those included that stop halfway at a bad level or at a log file that
cannot be opened.

## Main definitions

* `Logger.IsWellAttached` — the handlers that a logger can have.

## Main results

* `isWellAttached_attach`, `IsWellAttached.setLevel` — the changes that touch handlers;
* `Change.all_isWellAttached` — every change preserves it;
* `isWellAttached_run` — it holds of all loggers after any run.
-/

namespace Transcode

open Log (Logger Registry Sink)
open Log.Registry (Change IsAttachment Reaches)

namespace Log

namespace Logger

/-- The handlers of a logger: none, or one for the console, or that one and one for a file, all at
the level of the logger. -/
def IsWellAttached (logger : Logger) : Prop :=
  logger.handlers = [] ∨ logger.handlers = [⟨.console, logger.level⟩] ∨
    ∃ location,
      logger.handlers = [⟨.console, logger.level⟩, ⟨.file location, logger.level⟩]

/-- A logger without handlers is `IsWellAttached`. -/
theorem isWellAttached_of_bare {logger : Logger} (h : logger.handlers = []) :
    logger.IsWellAttached :=
  Or.inl h

namespace IsWellAttached

variable {logger : Logger}

/-- `Logger.forget` touches no handler. -/
theorem forget (h : logger.IsWellAttached) : logger.forget.IsWellAttached :=
  h

/-- `Logger.remember` touches no handler. -/
theorem remember (h : logger.IsWellAttached) (level : Nat) (verdict : Bool) :
    (logger.remember level verdict).IsWellAttached := by
  rw [Logger.remember]
  split
  · exact h
  · exact h

/-- `Logger.setLevel` sets all handlers as well. -/
theorem setLevel (h : logger.IsWellAttached) (level : Nat) :
    (logger.setLevel level).IsWellAttached := by
  rcases h with h | h | ⟨location, h⟩
  · exact Or.inl (by simp [Logger.setLevel, h])
  · exact Or.inr (Or.inl (by simp [Logger.setLevel, h]))
  · exact Or.inr (Or.inr ⟨location, by simp [Logger.setLevel, h]⟩)

end IsWellAttached

/-- `Logger.attach` leaves a bare logger well attached, with handlers as `IsAttachment` allows. -/
theorem isWellAttached_attach {logger : Logger} (hbare : logger.handlers = []) (level : Nat)
    {sinks : List Sink} (hsinks : IsAttachment sinks) :
    (logger.attach level sinks).IsWellAttached := by
  rw [attach, hbare]
  rcases hsinks with rfl | ⟨location, rfl⟩
  · exact Or.inr (Or.inl rfl)
  · exact Or.inr (Or.inr ⟨location, rfl⟩)

end Logger

namespace Registry

/-- Every `Change` leaves all loggers well attached. -/
theorem Change.all_isWellAttached {r after : Registry} (hchange : Change r after)
    (h : r.All Logger.IsWellAttached) : after.All Logger.IsWellAttached := by
  have hforget : ∀ logger : Logger, logger.IsWellAttached → logger.forget.IsWellAttached :=
    fun _ hlogger => hlogger.forget
  cases hchange with
  | make name => exact h.make (Or.inl rfl) name
  | settle name level => exact h.update fun logger _ hlogger => hlogger.remember level _
  | strip name => exact h.update fun logger _ _ => Logger.isWellAttached_of_bare rfl
  | @attach name level sinks hbare hsinks =>
      refine (h.update fun logger hfind _ => ?_).forget hforget
      rw [logger_eq, hfind] at hbare
      exact Logger.isWellAttached_attach hbare level hsinks
  | setProgramLevel level =>
      exact h.setProgramLevel (fun _ hlogger => hlogger.setLevel level) hforget

/-- So does any number of changes, by `Reaches`. -/
theorem Reaches.all_isWellAttached {r after : Registry} (hreaches : Reaches r after)
    (h : r.All Logger.IsWellAttached) : after.All Logger.IsWellAttached := by
  induction hreaches with
  | refl => exact h
  | tail _ hchange ih => exact hchange.all_isWellAttached ih

end Registry

end Log

namespace Session

/-- In `startingRegistry` each logger of the program has one handler for the console. -/
theorem all_isWellAttached_startingRegistry :
    startingRegistry.All Logger.IsWellAttached := by
  refine startingRegistry_induction ⟨Or.inl rfl, fun hmem => absurd hmem List.not_mem_nil⟩ ?_
  intro r name h
  exact (h.make (Or.inl rfl) name).update fun _ _ _ => Or.inr (Or.inl rfl)

/-- **The handlers of all loggers in every session.** After any steps from the start, whether they
ended with answers or with faults, the root logger and every logger that has been made has no
handlers, or one for the console, or that one and one for a file, and each handler has the level of
its logger. -/
theorem isWellAttached_run (files : Files) (time : String) (steps : List Step) :
    let registry := ((fresh files time).run steps).2.registry
    registry.root.IsWellAttached ∧
      ∀ name logger, (name, logger) ∈ registry.loggers → logger.IsWellAttached := by
  have hstart : (fresh files time).registry.All Logger.IsWellAttached := by
    rw [registry_fresh]
    exact all_isWellAttached_startingRegistry
  have hall := (reaches_run (fresh files time) steps).all_isWellAttached hstart
  exact ⟨hall.root, fun name logger hmem => hall.of_mem_loggers hmem⟩

end Session

end Transcode
