import Transcode.Proofs.Log.Tree

/-!
# Handlers in pairs

With a log file, a logger is attached with two handlers at one level: one for the console, and one
for the file. As long as the program's loggers have no others, and the root logger has none, the
handlers that a record gets to are such pairs, wherever it comes from in the program's part of the
tree; and so are those that let it through, since the two of a pair have the same level.

## Main definitions

* `paired`, `ArePaired` — handlers for the console and for one file, in turn;
* `Registry.IsPaired` — the program's loggers have handlers in pairs only.

## Main results

* `ArePaired.filter`, `ArePaired.setLevel` — the two of a pair stay together;
* `IsPaired.make`, `IsPaired.settle`, `IsPaired.attach`, `IsPaired.setProgramLevel` — the changes of
  the loggers that keep the handlers in pairs;
* `IsPaired.handlersOf`, `IsPaired.handlersFor` — the handlers that a record gets to.
-/

namespace Transcode.Log

variable {location : Location} {handlers more : List Handler}

/-- At each of the levels a handler for the console, and one for the file. -/
def paired (location : Location) (levels : List Nat) : List Handler :=
  levels.flatMap fun level => [⟨.console, level⟩, ⟨.file location, level⟩]

theorem paired_cons (location : Location) (level : Nat) (levels : List Nat) :
    paired location (level :: levels) =
      ⟨.console, level⟩ :: ⟨.file location, level⟩ :: paired location levels := rfl

/-- Handlers are **paired** if they are for the console and for the file in turn, the two of a pair
at one level. -/
def ArePaired (location : Location) (handlers : List Handler) : Prop :=
  ∃ levels, handlers = paired location levels

namespace ArePaired

theorem nil : ArePaired location [] :=
  ⟨[], rfl⟩

theorem pair (location : Location) (level : Nat) :
    ArePaired location ([.console, .file location].map fun sink => ⟨sink, level⟩) :=
  ⟨[level], rfl⟩

theorem append (h : ArePaired location handlers) (hmore : ArePaired location more) :
    ArePaired location (handlers ++ more) := by
  obtain ⟨levels, rfl⟩ := h
  obtain ⟨others, rfl⟩ := hmore
  exact ⟨levels ++ others, List.flatMap_append.symm⟩

/-- A record gets through both handlers of a pair, or through none, so `ArePaired` handlers stay so.
-/
theorem filter (h : ArePaired location handlers) (level : Nat) :
    ArePaired location (handlers.filter (·.level ≤ level)) := by
  obtain ⟨levels, rfl⟩ := h
  induction levels with
  | nil => exact nil
  | cons own rest ih =>
      rw [paired_cons]
      by_cases hown : own ≤ level
      · simpa [hown] using (pair location own).append ih
      · simpa [hown] using ih

/-- Setting a level sets both handlers of a pair, so `ArePaired` handlers stay so. -/
theorem setLevel (h : ArePaired location handlers) (level : Nat) :
    ArePaired location (handlers.map fun handler => { handler with level }) := by
  obtain ⟨levels, rfl⟩ := h
  induction levels with
  | nil => exact nil
  | cons own rest ih => exact (pair location level).append ih

/-- The handlers of several loggers are `ArePaired` if those of each are. -/
theorem flatMap {loggers : List Logger}
    (h : ∀ logger ∈ loggers, ArePaired location logger.handlers) :
    ArePaired location (loggers.flatMap Logger.handlers) := by
  induction loggers with
  | nil => exact nil
  | cons first rest ih =>
      rw [List.flatMap_cons]
      exact (h first List.mem_cons_self).append
        (ih fun logger hmem => h logger (List.mem_cons_of_mem _ hmem))

end ArePaired

namespace Registry

variable {r : Registry} {name : Text}

/-- The program's loggers have handlers in pairs only, and the root logger has none. -/
structure IsPaired (location : Location) (r : Registry) : Prop where
  placed : r.IsPlaced
  root : (r.logger rootName).handlers = []
  program : ∀ {name}, isProgramName name = true → ArePaired location (r.logger name).handlers

namespace IsPaired

/-- `IsPaired` is kept where no handlers are changed. -/
theorem of_handlers {after : Registry} (h : r.IsPaired location) (hplaced : after.IsPlaced)
    (hsame : ∀ name, (after.logger name).handlers = (r.logger name).handlers) :
    after.IsPaired location where
  placed := hplaced
  root := (hsame rootName).trans h.root
  program hname := by
    rw [hsame]
    exact h.program hname

/-- `make` gives a logger no handlers. -/
theorem make (h : r.IsPaired location) (name : Text) : (r.make name).IsPaired location :=
  h.of_handlers (h.placed.make name) fun other => by rw [logger_make]

/-- `settle` touches no handler. -/
theorem settle (h : r.IsPaired location) (name : Text) (level : Nat) :
    (r.settle name level).IsPaired location :=
  h.of_handlers (h.placed.update name _) (handlers_settle r name level)

/-- `attach` gives a logger of the program that is there a pair more. -/
theorem attach (h : r.IsPaired location) (hname : isProgramName name = true) {logger : Logger}
    (hfind : r.find? name = some logger) (level : Nat) :
    (r.attach name level [.console, .file location]).IsPaired location where
  placed := (h.placed.update name _).forget
  root := by
    have hroot := (ne_rootName_of_isProgramName hname).symm
    exact (handlers_attach_of_ne hroot level _ r).trans h.root
  program {other} hother := by
    by_cases hsame : other = name
    · rw [hsame, handlers_attach hfind]
      exact (h.program hname).append (.pair location level)
    · rw [handlers_attach_of_ne hsame]
      exact h.program hother

/-- `setProgramLevel` sets the pairs of the program's loggers. -/
theorem setProgramLevel (h : r.IsPaired location) (level : Nat) :
    (r.setProgramLevel level).IsPaired location where
  placed := h.placed.setProgramLevel level
  root := by
    have hroot : isProgramName rootName = false := by decide
    exact (handlers_setProgramLevel_of_not hroot level r).trans h.root
  program hname := by
    rw [handlers_setProgramLevel hname]
    exact (h.program hname).setLevel level

/-- **The handlers that a record gets to** by `handlersOf` a logger of the program are paired, since
none of the loggers above it has others. -/
theorem handlersOf (h : r.IsPaired location) (hname : isProgramName name = true) :
    ArePaired location (r.handlersOf name) := by
  refine ArePaired.flatMap fun logger hmem => ?_
  rcases h.placed.eq_root_or_exists_of_mem_chainFrom (.inr hname) hmem with
    rfl | ⟨other, hother, rfl⟩
  · have hroot : r.logger rootName = r.root := if_pos rfl
    rw [← hroot, h.root]
    exact .nil
  · exact h.program hother

/-- So are those of `handlersFor`, which let the record through. -/
theorem handlersFor (h : r.IsPaired location) (hname : isProgramName name = true) (level : Nat) :
    ArePaired location (r.handlersFor name level) :=
  (h.handlersOf hname).filter level

end IsPaired

end Registry

end Transcode.Log
