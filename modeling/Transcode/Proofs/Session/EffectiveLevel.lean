import Transcode.Proofs.Log.Lineage
import Transcode.Proofs.Session.LogLines
import Transcode.Proofs.Session.ProgramLevel
import Transcode.Proofs.Session.Reload

/-!
# The level that counts

At the start none of the program's loggers is below another one. When their handlers have been
attached anew and their level has been set, the one above all of them is there as well. It has the
level too, but no handlers, and neither has the root logger; so a record gets to the handlers of its
own logger only, once to each. All of these are at the level that was set last, whatever they were
at before.

With no level at all the loggers go by the one of the root logger, though all handlers are open
then. So one number decides on each record, and whatever takes one writes to all places or to none.

## Main definitions

* `Level.effective` — the level that the program's loggers go by;
* `Record.linesAt` — the line of a record, if it is not below that level;
* `Registry.WritesAt` — a logger with just its own handlers, all at one level;
* `IsAtStart` — loggers like those at the start.

## Main results

* `takers_of_writesAt` — what takes a record of such a logger;
* `written_acceptances` — the lines of several records;
* `exists_writesAt_of_setUp` — the program's loggers after their level has been set.
-/

namespace Transcode

open Log (Handler Logger Record Registry Sink Taker)

/-! ### Loggers at one level -/

namespace Log

/-- The level that the program's loggers go by when they are set to a level: without one, that of
the root logger, which is `Level.warning`. -/
def Level.effective (level : Nat) : Nat :=
  if level = unset then warning else level

/-- `Level.effective` is not below the level that has been set. -/
theorem Level.le_effective (level : Nat) : level ≤ effective level := by
  rw [effective]
  split
  next hunset =>
    rw [hunset]
    exact Nat.zero_le _
  next => exact Nat.le_refl _

/-- The line of a record of the program, if its loggers are set to a level whose `Level.effective`
lets it through. -/
def Record.linesAt (level : Nat) (time : String) (record : Record) : List String :=
  if Level.effective level ≤ record.level then [(record.line time).plain] else []

namespace Registry

/-- A logger **writes at** a level to some places if its records get to one handler for each of
these, which is at that level, and to no others. It goes by the level itself, or by that of the root
logger if it is none, and nothing has been decided yet. -/
structure WritesAt (level : Nat) (sinks : List Sink) (r : Registry) (name : Text) : Prop where
  handlers : r.handlersOf name = sinks.map fun sink => ⟨sink, level⟩
  threshold : r.threshold name = Level.effective level
  undecided : (r.logger name).decisions = []

/-- `forget` leaves no decisions. -/
theorem decisions_forget (r : Registry) (name : Text) :
    (r.forget.logger name).decisions = [] := by
  rw [logger_eq, find?_forget]
  cases r.find? name <;> rfl

/-- `WritesAt` holds of a logger right below the one above all those of the program if both have the
level, its own handlers are all at it, and there are no other ones. -/
theorem writesAt_of_equipment {r : Registry} {name : Text} {level : Nat} {sinks : List Sink}
    (hchain : r.chain name = [r.logger name, r.logger programName, r.logger rootName])
    (hown : (r.logger name).equipment = (level, sinks.map fun sink => ⟨sink, level⟩))
    (htop : (r.logger programName).equipment = (level, []))
    (hroot : (r.logger rootName).equipment = (Level.warning, []))
    (hundecided : (r.logger name).decisions = []) : r.WritesAt level sinks name := by
  obtain ⟨hownLevel, hownHandlers⟩ := Prod.mk.inj hown
  obtain ⟨htopLevel, htopHandlers⟩ := Prod.mk.inj htop
  obtain ⟨hrootLevel, hrootHandlers⟩ := Prod.mk.inj hroot
  refine ⟨?_, ?_, hundecided⟩
  · rw [handlersOf, hchain]
    simp [hownHandlers, htopHandlers, hrootHandlers]
  · rw [threshold, hchain, List.map_cons, List.map_cons, List.map_singleton, hownLevel, htopLevel,
      hrootLevel, Level.effective]
    by_cases hlevel : level = Level.unset
    · rw [if_pos hlevel, hlevel]
      rfl
    · rw [if_neg hlevel, List.find?_cons_of_pos (by simpa using hlevel)]
      rfl

/-- The root logger is always there. -/
theorem equipment?_rootName (r : Registry) : r.equipment? rootName = some r.root.equipment := by
  rw [equipment?, find?, if_pos rfl, Option.map_some]

end Registry

end Log

namespace Session

variable {s mid after : Session} {record : Record} {records : List Record} {level : Nat}
  {sinks : List Sink} {name : Text} {value : Value}

/-! ### What takes a record -/

/-- **What takes a record** of a logger with `WritesAt`: all its handlers, or none. -/
theorem takers_of_writesAt (h : s.registry.WritesAt level sinks record.logger) (hne : sinks ≠ [])
    (hrecord : record.level ≠ Log.Level.unset) :
    s.takers record =
      if Log.Level.effective level ≤ record.level then sinks.map fun sink => .attached ⟨sink, level⟩
      else [] := by
  have hadmits : s.registry.admits record.logger record.level =
      decide (Log.Level.effective level ≤ record.level) := by
    rw [Registry.admits, Logger.decision?, h.undecided, h.threshold]
    simp [hrecord]
  rw [takers, hadmits, h.handlers]
  by_cases heffective : Log.Level.effective level ≤ record.level
  · have hlevel : level ≤ record.level := Nat.le_trans (Log.Level.le_effective level) heffective
    rw [if_pos heffective, if_pos (by simpa using heffective), if_neg (by simpa using hne),
      Registry.handlersFor, h.handlers, List.filter_eq_self.mpr, List.map_map]
    · rfl
    · intro handler hmem
      obtain ⟨sink, -, rfl⟩ := List.mem_map.mp hmem
      exact decide_eq_true hlevel
  · rw [if_neg heffective, if_neg (by simpa using heffective)]

/-- Of handlers for different places, one writes to a place that is among these. -/
theorem written_attached (hnodup : sinks.Nodup) (level : Nat) (record : Record) (sink : Sink)
    (time : String) :
    written sink time ((sinks.map fun sink => Taker.attached ⟨sink, level⟩).map
        fun taker => (taker, record)) =
      if sink ∈ sinks then [(record.line time).plain] else [] := by
  have hown :
      sinks.filter (fun own => decide (own = sink)) = if sink ∈ sinks then [sink] else [] := by
    rw [List.filter_eq]
    split
    next hmem => rw [List.count_eq_one_of_mem hnodup hmem, List.replicate_one]
    next hmem => rw [List.count_eq_zero_of_not_mem hmem, List.replicate_zero]
  rw [written, List.map_map, List.filter_map, List.map_map]
  show (sinks.filter fun own => decide (own = sink)).map (fun _ => (record.line time).plain) = _
  rw [hown]
  split <;> rfl

/-- **The lines of several records** of loggers with `WritesAt`, at a place that these write to:
`Record.linesAt` of each, in their order. -/
theorem written_acceptances (hnodup : sinks.Nodup) (hne : sinks ≠ [])
    (h : ∀ record ∈ records, s.registry.WritesAt level sinks record.logger ∧
      record.level ≠ Log.Level.unset) (sink : Sink) (time : String) :
    written sink time (s.acceptances records) =
      if sink ∈ sinks then records.flatMap (Record.linesAt level time) else [] := by
  induction records with
  | nil => split <;> rfl
  | cons record rest ih =>
      obtain ⟨hwrites, hrecord⟩ := h record List.mem_cons_self
      have htail := ih fun other hother => h other (List.mem_cons_of_mem _ hother)
      rw [acceptances, List.flatMap_cons, ← acceptances, written_append, htail,
        takers_of_writesAt hwrites hne hrecord, List.flatMap_cons, Record.linesAt]
      by_cases heffective : Log.Level.effective level ≤ record.level
      · rw [if_pos heffective, if_pos heffective, written_attached hnodup]
        split <;> rfl
      · rw [if_neg heffective, if_neg heffective]
        rfl

/-! ### Setting up the loggers -/

/-- The loggers are **at the start** if they have been made like those of the program, which have
handlers, and no others. Neither the levels nor the handlers have to be the same. The root logger
has its level and no handlers. -/
structure IsAtStart (s : Session) : Prop where
  tree : s.registry.bare = startingRegistry.bare
  root : s.registry.root.equipment = (Log.Level.warning, [])
  attached : ∀ name ∈ programLoggers, (s.registry.logger name).handlers ≠ []

/-- `IsAtStart` holds of a fresh session, with any files, settings and variables. -/
theorem isAtStart_fresh (files : Files) (time : String) (environment : Entries Text Text)
    (config : Config) : IsAtStart { fresh files time with environment, config } where
  tree := rfl
  root := rfl
  attached := show ∀ name ∈ programLoggers, (startingRegistry.logger name).handlers ≠ [] by
    decide +kernel

/-- `IsAtStart` says that the logger above all those of the program has not been made yet. -/
theorem IsAtStart.handlers_programName (h : s.IsAtStart) :
    (s.registry.logger Registry.programName).handlers = [] := by
  have hmade := Registry.isSome_made?_map (fun _ => {}) s.registry Registry.programName
  rw [← Registry.bare, h.tree] at hmade
  have hnone : s.registry.made? Registry.programName = none := by
    rw [← Option.not_isSome_iff_eq_none, ← hmade]
    decide +kernel
  rw [Registry.logger, if_neg (by decide), hnone]
  rfl

/-- `reattach` leaves the tree as it is. The induction is on the names. -/
theorem bare_of_each_reattach {names : List Text}
    (h : (Action.each names reattach).on s = (.ok (), after)) :
    after.registry.bare = s.registry.bare := by
  induction names generalizing s with
  | nil =>
      cases h
      rfl
  | cons first rest ih =>
      obtain ⟨mid, hfirst, hrest⟩ := exists_of_each_eq_ok h
      obtain ⟨level, sinks, -, -, -, hregistry⟩ := callsFor_of_reattach hfirst
      rw [ih hrest, hregistry, Registry.bare_attach, Registry.bare_update]

/-- Above each logger of the program is the one above all of them, and then the root logger. -/
theorem lineage_make_programName :
    ∀ name ∈ programLoggers,
      (startingRegistry.make Registry.programName).lineage name =
        [name, Registry.programName, Log.rootName] := by
  decide +kernel

/-- **The program's loggers after `setProgramLevel`**, if their handlers have been attached anew
before that. -/
theorem writesAt_of_reload (hstart : s.IsAtStart) (hreload : reload.on s = (.ok (), mid))
    {configured : Nat} (hcalls : CallsFor s.config s.files configured sinks)
    (hname : name ∈ programLoggers) (level : Nat) :
    ((mid.registry.make Registry.programName).setProgramLevel level).WritesAt level sinks name := by
  have hprogram := isProgramName_of_mem_programLoggers hname
  have hequipped := isEquippedFor_of_reload hreload hprogram (hstart.attached name hname)
  have hne := hequipped.handlers_ne_nil
  obtain ⟨configured', sinks', hcalls', -, hhandlers⟩ := hequipped
  obtain ⟨rfl, rfl⟩ := hcalls.unique hcalls'
  have htree : ((mid.registry.make Registry.programName).setProgramLevel level).bare =
      (startingRegistry.make Registry.programName).bare := by
    rw [Registry.bare_setProgramLevel, Registry.bare_make, bare_of_each_reattach hreload,
      hstart.tree, ← Registry.bare_make]
  refine Registry.writesAt_of_equipment ?chain ?own ?top ?root (Registry.decisions_forget _ name)
  case chain =>
    rw [Registry.chain_eq_of_bare htree (by decide +kernel), lineage_make_programName name hname]
    rfl
  case own =>
    rw [Registry.equipment_setProgramLevel_make hprogram hne, Logger.equipment, Logger.setLevel,
      hhandlers, List.map_map]
    rfl
  case top =>
    -- it has just been made, so it is there though it has no handlers
    have htop := (Registry.find?_make mid.registry Registry.programName _).trans (if_pos rfl)
    rw [Registry.equipment_setProgramLevel Registry.isProgramName_programName htop,
      Registry.logger_make, Logger.equipment, Logger.setLevel,
      handlers_of_reload_of_bare hreload hstart.handlers_programName]
    rfl
  case root =>
    have hothers := (Registry.isSetTo_setProgramLevel level mid.registry).others
    rw [Registry.equipment_logger, hothers Log.rootName (by decide),
      equipment?_of_reload_of_not_program hreload (by decide), Registry.equipment?_rootName,
      hstart.root]
    rfl

/-- **After the loggers have been set up without a fault**, the level that was given has a name that
stands for one, the configuration calls for some handlers, and each logger of the program writes at
that level to just the places of these. -/
theorem exists_writesAt_of_setUp (hstart : s.IsAtStart) (hreload : reload.on s = (.ok (), mid))
    (hset : (setLevel value).on mid = (.ok (), after)) :
    ∃ name level configured sinks, value = .text name ∧
      Log.Level.meaning? name.plain = some (.level level) ∧
      CallsFor s.config s.files configured sinks ∧
      ∀ logger ∈ programLoggers, after.registry.WritesAt level sinks logger := by
  have hcli : Text.ofString "ffmpeg_preset.cli" ∈ programLoggers := by decide
  obtain ⟨configured, sinks, hcalls, -⟩ := isEquippedFor_of_reload hreload
    (isProgramName_of_mem_programLoggers hcli) (hstart.attached _ hcli)
  cases value with
  | text name =>
      obtain ⟨level, hmeaning⟩ := setLevel_text_eq_ok_iff.mp (congrArg Prod.fst hset)
      rw [on_setLevel_text, hmeaning] at hset
      obtain rfl := congrArg Prod.snd hset
      exact ⟨name, level, configured, sinks, rfl, hmeaning, hcalls, fun logger hmem =>
        writesAt_of_reload hstart hreload hcalls hmem level⟩
  | _ => cases hset

end Session

end Transcode
