import Transcode.Proofs.Log.Changes
import Transcode.Proofs.Session.Presets
import Transcode.Session.Step

/-!
# What sessions do to their loggers

Every action of a session, and every step, takes the loggers through changes of `Registry.Change`
only, also when it ends with a fault. So what these changes preserve holds of the loggers of every
session that was fresh once, whatever was done in it.

Two actions need an argument of their own. Handlers are attached only to a logger that has none:
either because it has been asked for and was bare, or because it has just lost them. And a log file
that cannot be opened leaves a logger with its console, which is a change as well.

## Main definitions

* `ReachedFrom` — the loggers of a session come from a registry by such changes.

## Main results

* `startingRegistry_induction`, `registry_fresh` — the loggers at the start;
* `reachedFrom_attach` — attaching a bare logger;
* `reachedFrom_perform`, `reaches_step` — one step, with a case for each;
* `reaches_run` — a whole run, by induction on its steps.
-/

namespace Transcode

open Transcode.Action (Keeps keeps_pure keeps_throw keeps_throw_bind keeps_get keeps_modify
  keeps_ofExcept keeps_get_bind keeps_each)
open Log (Handler Record Registry)
open Log.Registry (Change Reaches)

namespace Session

/-- What making a logger and giving it a handler for the console preserves holds of the loggers at
the start. -/
theorem startingRegistry_induction {P : Registry → Prop} (hempty : P {})
    (hmake : ∀ r name, P r → P ((r.make name).update name fun _ =>
      { level := Log.Level.info, handlers := [⟨.console, Log.Level.info⟩] })) :
    P startingRegistry := by
  rw [startingRegistry]
  generalize programLoggers = names
  generalize ({} : Registry) = r at hempty
  induction names generalizing r with
  | nil => exact hempty
  | cons name rest ih => exact ih _ (hmake r name hempty)

/-- A `fresh` session has the loggers of `startingRegistry`. -/
theorem registry_fresh (files : Files) (time : String) :
    (fresh files time).registry = startingRegistry := by
  simp only [fresh]

/-- The loggers of a session come from those of a registry by `Reaches`. -/
def ReachedFrom (r : Registry) (s : Session) : Prop :=
  Reaches r s.registry

variable {r : Registry}

/-- One `Change` more. -/
theorem ReachedFrom.change {s after : Session} (h : ReachedFrom r s)
    (hchange : Change s.registry after.registry) : ReachedFrom r after :=
  Relation.ReflTransGen.tail h hchange

/-- `modify` keeps `ReachedFrom` if it is one change of the loggers. -/
theorem reachedFrom_modify {f : Session → Session} (h : ∀ s, Change s.registry (f s).registry) :
    Keeps (ReachedFrom r) (modify f : Action Unit) :=
  keeps_modify fun s hs => hs.change (h s)

/-- `modify` keeps `ReachedFrom` if it is done to something else than the loggers. -/
theorem reachedFrom_modify_other {f : Session → Session} (h : ∀ s, (f s).registry = s.registry) :
    Keeps (ReachedFrom r) (modify f : Action Unit) :=
  keeps_modify fun s hs => by
    rw [ReachedFrom, h s]
    exact hs

/-! ### Logging -/

/-- `writeRecord` changes no logger, whatever the handlers. -/
theorem registry_foldl_writeRecord (record : Record) (handlers : List Handler) (s : Session) :
    (handlers.foldl (fun s handler => s.writeRecord record handler.sink) s).registry =
      s.registry := by
  induction handlers generalizing s with
  | nil => rfl
  | cons handler rest ih =>
      rw [List.foldl_cons, ih]
      cases handler.sink with
      | console => rfl
      | file location =>
          rw [writeRecord]
          split <;> rfl

/-- `log` leaves a decision behind, by `settle`. -/
theorem registry_log (record : Record) (s : Session) :
    (log record s).registry = s.registry.settle record.logger record.level := by
  rw [log]
  split
  · rw [deliver]
    split
    · split <;> rfl
    · exact registry_foldl_writeRecord record _ _
  · rfl

/-- `log` is one `Change`. -/
theorem ReachedFrom.log (record : Record) (s : Session) (h : ReachedFrom r s) :
    ReachedFrom r (Session.log record s) :=
  h.change (registry_log record s ▸ .settle _ _ _)

/-- A record with `IsProgramRecord` is one of all. -/
theorem ReachedFrom.programLog (record : Record) (_ : IsProgramRecord record) (s : Session)
    (h : ReachedFrom r s) : ReachedFrom r (Session.log record s) :=
  h.log record s

/-- `openLog` changes no logger. -/
theorem registry_openLog (path : Value) (s : Session) :
    ((openLog path).on s).2.registry = s.registry := by
  rw [on_openLog]
  split
  · split <;> rfl
  · rfl

/-- `withConsole` attaches one handler, for the console. -/
theorem registry_withConsole (name : Text) (level : Nat) (s : Session) :
    (s.withConsole name level).registry = s.registry.attach name level [.console] := by
  show (s.registry.setLevel name level).update name _ = _
  rw [← Registry.attach_nil, Registry.update_attach]
  rfl

/-- `attach` is one change for a bare logger, which leaves it with its console if the log file
cannot be opened, and none without a level. -/
theorem reachedFrom_attach {name : Text} {s : Session} (h : ReachedFrom r s)
    (hbare : (s.registry.logger name).handlers = []) :
    ReachedFrom r ((attach name).on s).2 := by
  rw [on_attach]
  cases levelOfSetting (s.config.get .logLevel) with
  | error fault => exact h
  | ok level =>
      have hconsole : Change s.registry (s.withConsole name level).registry := by
        rw [registry_withConsole]
        exact .attach level hbare (Or.inl rfl)
      dsimp only
      split
      · exact h.change hconsole
      · have hopen := registry_openLog (s.config.get .logFile) (s.withConsole name level)
        split
        next after hon =>
          rw [hon] at hopen
          refine h.change ?_
          rw [hopen]
          exact hconsole
        next location after hon =>
          rw [hon] at hopen
          refine h.change ?_
          show Change s.registry (after.registry.update name _)
          rw [hopen, registry_withConsole, Registry.update_attach]
          exact .attach level hbare (Or.inr ⟨location, rfl⟩)

/-- `getLogger` attaches a logger only if it is bare. -/
theorem reachedFrom_getLogger (name : Value) : Keeps (ReachedFrom r) (getLogger name) := by
  rw [getLogger]
  split
  next text _ =>
    refine (reachedFrom_modify fun s => .make s.registry text).bind fun _ => ?_
    refine keeps_get_bind fun s hs => ?_
    split
    next hbare =>
      show ReachedFrom r ((attach text >>= fun _ => pure text).on s).2
      rw [Action.on_bind_pure]
      exact reachedFrom_attach hs (List.isEmpty_iff.mp hbare)
    next => exact hs
  next => exact keeps_throw _

/-- `reattach` attaches a logger that has lost its handlers. -/
theorem reachedFrom_reattach (name : Text) : Keeps (ReachedFrom r) (reattach name) := by
  intro s hs
  rw [reattach, Action.on_bind, Action.on_modify]
  refine reachedFrom_attach (hs.change (.strip s.registry name)) ?_
  show ((s.registry.update name _).logger name).handlers = []
  rw [Registry.logger_eq, Registry.find?_update_self]
  cases s.registry.find? name <;> rfl

/-- `reload` attaches loggers anew one after another. -/
theorem reachedFrom_reload : Keeps (ReachedFrom r) reload :=
  keeps_get.bind fun _ => keeps_each fun name _ => reachedFrom_reattach name

/-- `setLevel` makes the logger of the program, and then sets the program's loggers. -/
theorem reachedFrom_setLevel (value : Value) : Keeps (ReachedFrom r) (setLevel value) := by
  cases value with
  | text name =>
      rw [setLevel]
      split
      · exact keeps_throw _
      · refine (reachedFrom_modify fun s => .make s.registry _).bind fun _ => ?_
        refine (keeps_ofExcept _).bind fun level => ?_
        exact reachedFrom_modify fun s => .setProgramLevel s.registry level
  | _ => exact keeps_throw _

/-! ### Settings and files -/

/-- `load` changes no logger. -/
theorem reachedFrom_load (path : Value) : Keeps (ReachedFrom r) (load path) := by
  rw [load]
  refine Keeps.bind (reachedFrom_modify_other fun _ => rfl) fun _ => ?_
  refine keeps_get.bind fun s => (keeps_ofExcept _).bind fun entries => ?_
  refine Keeps.bind (reachedFrom_modify_other fun _ => rfl) fun _ => ?_
  exact keeps_get.bind fun s => keeps_pure _

/-- `assign` changes no logger. -/
theorem reachedFrom_assign (name value : Value) : Keeps (ReachedFrom r) (assign name value) := by
  rw [assign]
  refine keeps_get.bind fun s => (keeps_ofExcept _).bind fun config => ?_
  exact reachedFrom_modify_other fun _ => rfl

/-- `save` changes no logger. -/
theorem reachedFrom_save (config : Config) (path : Text) :
    Keeps (ReachedFrom r) (save config path) := by
  rw [save]
  refine keeps_get.bind fun s => ?_
  split
  · exact keeps_throw _
  · exact Keeps.bind (reachedFrom_modify_other fun _ => rfl) fun _ => keeps_pure _

/-- `configToSave` does nothing. -/
theorem reachedFrom_configToSave (entries : Option (List (Text × Value))) :
    Keeps (ReachedFrom r) (configToSave entries) := by
  cases entries with
  | some entries => exact keeps_ofExcept _
  | none =>
      rw [configToSave]
      refine keeps_get.bind fun s => ?_
      dsimp only
      split
      · exact keeps_throw _
      · exact keeps_pure _

/-- `setVariable` changes no logger. -/
theorem reachedFrom_setVariable (name value : Value) :
    Keeps (ReachedFrom r) (setVariable name value) := by
  rw [setVariable]
  refine (keeps_ofExcept _).bind fun name => (keeps_ofExcept _).bind fun value => ?_
  dsimp only
  split
  · exact keeps_throw_bind _ _
  · split
    · exact keeps_throw_bind _ _
    · split
      · exact keeps_throw_bind _ _
      · exact reachedFrom_modify_other fun _ => rfl

/-- `unsetVariable` changes no logger. -/
theorem reachedFrom_unsetVariable (name : Value) :
    Keeps (ReachedFrom r) (unsetVariable name) := by
  rw [unsetVariable]
  exact (keeps_ofExcept _).bind fun name => reachedFrom_modify_other fun _ => rfl

/-- `fileText` does nothing. -/
theorem reachedFrom_fileText (path : Text) : Keeps (ReachedFrom r) (fileText path) := by
  rw [fileText]
  refine keeps_get.bind fun s => ?_
  split
  · exact keeps_throw _
  · split
    · exact keeps_throw _
    · exact keeps_pure _

end Session

/-! ### Running the program -/

namespace CommandLine

open Session (ReachedFrom reachedFrom_modify_other)

variable {r : Registry}

/-- `say` changes no logger. -/
theorem reachedFrom_say (line : String) : Keeps (ReachedFrom r) (say line) :=
  reachedFrom_modify_other fun _ => rfl

/-- `refuse` changes no logger. -/
theorem reachedFrom_refuse (text : String) : Keeps (ReachedFrom r) (refuse text) := by
  rw [refuse]
  exact Keeps.bind (reachedFrom_modify_other fun _ => rfl) fun _ => keeps_pure _

/-- `misused` changes no logger. -/
theorem reachedFrom_misused (m : Misuse) : Keeps (ReachedFrom r) (misused m) :=
  (keeps_get.bind fun _ => keeps_pure _).bind fun _ => reachedFrom_refuse _

/-- `loadConfig` changes no logger, also with a file that is not valid. -/
theorem reachedFrom_loadConfig (path : Value) : Keeps (ReachedFrom r) (loadConfig path) := by
  rw [loadConfig]
  refine (Session.reachedFrom_load path).attempt.bind fun outcome => ?_
  split
  · exact keeps_pure _
  · split
    · exact keeps_pure _
    · exact keeps_throw _

/-- `readPreset` leaves a note. -/
theorem reachedFrom_readPreset (text : Value) : Keeps (ReachedFrom r) (readPreset text) := by
  rw [readPreset]
  refine (Session.keeps_parse ReachedFrom.programLog text).attempt.bind fun outcome => ?_
  split
  · exact keeps_pure _
  · exact keeps_pure _
  · exact keeps_throw _

/-- `present` leaves notes. -/
theorem reachedFrom_present (options : Options) (p : Preset) :
    Keeps (ReachedFrom r) (present options p) := by
  rw [present]
  refine (Session.keeps_note (ReachedFrom.log _)).bind fun _ => ?_
  split
  · refine (Session.keeps_compile ReachedFrom.programLog p).bind fun a => ?_
    refine (reachedFrom_say _).bind fun _ => ?_
    exact (reachedFrom_say _).bind fun _ => keeps_pure _
  · split
    · exact reachedFrom_misused _
    · refine (Session.keeps_build ReachedFrom.programLog _ _ _ _).bind fun command => ?_
      refine (keeps_ofExcept _).bind fun words => ?_
      exact (reachedFrom_say _).bind fun _ => keeps_pure _

/-- `carryOut` changes the loggers where they are attached anew and set to a level. -/
theorem reachedFrom_carryOut (options : Options) : Keeps (ReachedFrom r) (carryOut options) := by
  rw [carryOut]
  refine (reachedFrom_loadConfig _).bind fun invalid => ?_
  split
  · exact reachedFrom_refuse _
  · refine Session.reachedFrom_reload.bind fun _ => keeps_get.bind fun s => ?_
    refine (Session.reachedFrom_setLevel _).bind fun _ => ?_
    split
    · exact (keeps_each fun line _ => reachedFrom_say line).bind fun _ => keeps_pure _
    · refine keeps_get.bind fun s => (reachedFrom_readPreset _).bind fun outcome => ?_
      split
      · exact reachedFrom_refuse _
      · exact reachedFrom_present options _

/-- `CommandLine.run` takes the loggers through their changes, whatever its arguments are. -/
theorem reachedFrom_run (arguments : List String) : Keeps (ReachedFrom r) (run arguments) := by
  rw [run]
  split
  · refine (keeps_get.bind fun _ => keeps_pure _).bind fun width => ?_
    exact (keeps_each fun line _ => reachedFrom_say line).bind fun _ => keeps_pure _
  · exact reachedFrom_misused _
  · exact reachedFrom_carryOut _

end CommandLine

/-! ### Steps -/

namespace Session

variable {r : Registry}

/-- `perform` takes the loggers through their changes, with a case for each kind of `Step`. -/
theorem reachedFrom_perform (asked : Step) : Keeps (ReachedFrom r) (perform asked) := by
  cases asked with
  | setVariable name value =>
      exact (reachedFrom_setVariable name value).bind fun _ => keeps_pure _
  | unsetVariable name =>
      exact (reachedFrom_unsetVariable name).bind fun _ => keeps_pure _
  | write path placed =>
      refine Keeps.bind (reachedFrom_modify_other fun s => ?_) fun _ => keeps_pure _
      cases placed <;> rfl
  | fileText path => exact (reachedFrom_fileText path).bind fun _ => keeps_pure _
  | load path => exact (reachedFrom_load path).bind fun _ => keeps_pure _
  | showConfig => exact keeps_get.bind fun _ => keeps_pure _
  | assign name value => exact (reachedFrom_assign name value).bind fun _ => keeps_pure _
  | newConfig entries => exact (keeps_ofExcept _).bind fun _ => keeps_pure _
  | compareConfigs a b =>
      exact (keeps_ofExcept _).bind fun _ => (keeps_ofExcept _).bind fun _ => keeps_pure _
  | environmentConfig => exact keeps_get.bind fun _ => keeps_pure _
  | fileConfig path =>
      refine (keeps_ofExcept _).bind fun _ => keeps_get.bind fun _ => ?_
      exact (keeps_ofExcept _).bind fun _ => keeps_pure _
  | readDocument path =>
      refine (keeps_ofExcept _).bind fun _ => keeps_get.bind fun _ => ?_
      exact (keeps_ofExcept _).bind fun _ => keeps_pure _
  | saveConfig path entries =>
      refine (reachedFrom_configToSave entries).bind fun _ => (keeps_ofExcept _).bind fun _ => ?_
      exact (reachedFrom_save _ _).bind fun _ => keeps_pure _
  | getLogger name => exact (reachedFrom_getLogger name).bind fun _ => keeps_pure _
  | log logger level message =>
      refine (reachedFrom_getLogger logger).bind fun _ => ?_
      exact (keeps_note (ReachedFrom.log _)).bind fun _ => keeps_pure _
  | setLevel level => exact (reachedFrom_setLevel level).bind fun _ => keeps_pure _
  | reload => exact reachedFrom_reload.bind fun _ => keeps_pure _
  | listLoggers => exact keeps_get.bind fun _ => keeps_pure _
  | parse text => exact (keeps_parse ReachedFrom.programLog text).bind fun _ => keeps_pure _
  | compileText text =>
      refine (keeps_parse ReachedFrom.programLog text).bind fun _ => ?_
      exact (keeps_compile ReachedFrom.programLog _).bind fun _ => keeps_pure _
  | compile preset =>
      refine (keeps_request ReachedFrom.programLog preset).bind fun _ => ?_
      exact (keeps_compileRequested ReachedFrom.programLog _).bind fun _ => keeps_pure _
  | build preset input output program =>
      refine (keeps_request ReachedFrom.programLog preset).bind fun _ => ?_
      exact (keeps_build ReachedFrom.programLog _ _ _ _).bind fun _ => keeps_pure _
  | run arguments => exact (CommandLine.reachedFrom_run arguments).bind fun _ => keeps_pure _

/-- `step` takes the loggers through their changes, also when it ends with a fault. -/
theorem reaches_step (s : Session) (asked : Step) :
    Reaches s.registry (s.step asked).2.registry :=
  reachedFrom_perform asked { s with output := "", errors := "" } Relation.ReflTransGen.refl

/-- **`run` takes the loggers through their changes.** The induction is on its steps. -/
theorem reaches_run (s : Session) (steps : List Step) :
    Reaches s.registry (s.run steps).2.registry := by
  induction steps generalizing s with
  | nil => exact Relation.ReflTransGen.refl
  | cons asked rest ih => exact (reaches_step s asked).trans (ih _)

end Session

end Transcode
