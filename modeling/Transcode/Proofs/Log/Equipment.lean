import Transcode.Proofs.Log.Changes

/-!
# What loggers are equipped with

A logger is equipped with a level and with handlers. What has been decided on levels is left out of
this, so forgetting decisions shows nowhere, and a change of one logger shows in that logger only.

## Main definitions

* `Logger.equipment`, `Registry.equipment?` — the level and the handlers of a logger.

## Main results

* `find?_update_of_ne`, `equipment?_update_of_ne` — after a change of another logger;
* `equipment?_attach`, `handlers_attach`, `equipment?_attach_of_ne` — after a logger has been
  attached;
* `handlers_settle` — after a decision;
* `find?_make`, `logger_make` — after a logger has been made;
* `equipment?_setProgramLevel`, `handlers_setProgramLevel` — after the program's loggers have been
  set to a level;
* `mem_programNames_of_handlers` — a logger of the program that has handlers is listed.
-/

namespace Transcode.Log

/-- The level and the handlers of a logger. -/
def Logger.equipment (logger : Logger) : Nat × List Handler :=
  (logger.level, logger.handlers)

/-- Loggers with the same `Logger.equipment` have the same handlers. -/
theorem Logger.handlers_eq_of_equipment {a b : Logger} (h : a.equipment = b.equipment) :
    a.handlers = b.handlers :=
  congrArg Prod.snd h

/-- `Logger.setLevel` leaves the equipment of a logger that is at the level with all its handlers.
-/
theorem Logger.equipment_setLevel {logger : Logger} {level : Nat} (hlevel : logger.level = level)
    (hhandlers : ∀ handler ∈ logger.handlers, handler.level = level) :
    (logger.setLevel level).equipment = logger.equipment := by
  have hsame : logger.handlers.map (fun handler => { handler with level }) = logger.handlers := by
    refine (List.map_congr_left fun handler hmem => ?_).trans (List.map_id _)
    rw [← hhandlers handler hmem]
    rfl
  exact Prod.ext hlevel.symm hsame

namespace Registry

variable {r : Registry} {name other : Text}

/-- The `Logger.equipment` of the logger of a name, if there is one. -/
def equipment? (r : Registry) (name : Text) : Option (Nat × List Handler) :=
  (r.find? name).map Logger.equipment

/-- A logger that is not there counts as one without level and handlers. -/
theorem equipment_logger (r : Registry) (name : Text) :
    (r.logger name).equipment = (r.equipment? name).getD (Level.unset, []) := by
  rw [logger_eq, equipment?]
  cases r.find? name <;> rfl

/-! ### One logger, and the others -/

/-- `find?` does not see an `update` of another name. -/
theorem find?_update_of_ne (h : other ≠ name) (r : Registry) (change : Logger → Logger) :
    (r.update name change).find? other = r.find? other := by
  by_cases hroot : name = rootName
  · subst hroot
    simp [find?, update, h, made?]
  · rw [update, if_neg hroot]
    cases Entries.get? name r.entries with
    | none => rfl
    | some node => simp only [find?, made?, enter, Entries.get?_put_of_ne h]

/-- `forget` shows in each logger that `find?` finds. -/
theorem find?_forget (r : Registry) (name : Text) :
    r.forget.find? name = (r.find? name).map Logger.forget := by
  have hentries : r.forget.entries = Entries.mapValues (Node.map Logger.forget) r.entries := rfl
  rw [find?, find?]
  split
  · rfl
  · rw [made?, made?, hentries, Entries.get?_mapValues]
    cases Entries.get? name r.entries with
    | none => rfl
    | some node => cases node <;> rfl

/-- `forget` does not show in `equipment?`. -/
theorem equipment?_forget (r : Registry) (name : Text) :
    r.forget.equipment? name = r.equipment? name := by
  rw [equipment?, equipment?, find?_forget, Option.map_map]
  rfl

/-- `update` does not show in the `equipment?` of another logger. -/
theorem equipment?_update_of_ne (h : other ≠ name) (r : Registry) (change : Logger → Logger) :
    (r.update name change).equipment? other = r.equipment? other := by
  rw [equipment?, find?_update_of_ne h, equipment?]

/-- `attach` does not show in the `equipment?` of another logger. -/
theorem equipment?_attach_of_ne (h : other ≠ name) (level : Nat) (sinks : List Sink)
    (r : Registry) : (r.attach name level sinks).equipment? other = r.equipment? other := by
  rw [attach, equipment?_forget, equipment?_update_of_ne h]

/-- `attach` gives a logger a level, and handlers behind those that it has. -/
theorem equipment?_attach (name : Text) (level : Nat) (sinks : List Sink) (r : Registry) :
    (r.attach name level sinks).equipment? name =
      (r.find? name).map fun logger => (logger.attach level sinks).equipment := by
  rw [attach, equipment?_forget, equipment?, find?_update_self, Option.map_map]
  rfl

/-- `attach` gives a logger that has lost its handlers the new ones only. -/
theorem equipment?_attach_self (name : Text) (level : Nat) (sinks : List Sink) (r : Registry) :
    ((r.update name fun logger => { logger with handlers := [] }).attach name level
        sinks).equipment? name =
      (r.equipment? name).map fun _ => (level, sinks.map fun sink => ⟨sink, level⟩) := by
  rw [equipment?_attach, find?_update_self, equipment?]
  cases r.find? name <;> rfl

/-- `attach` gives a logger that is there handlers behind those that it has. -/
theorem handlers_attach {logger : Logger} (h : r.find? name = some logger) (level : Nat)
    (sinks : List Sink) :
    ((r.attach name level sinks).logger name).handlers =
      (r.logger name).handlers ++ sinks.map fun sink => ⟨sink, level⟩ := by
  have hlogger := equipment_logger (r.attach name level sinks) name
  rw [equipment?_attach, h] at hlogger
  rw [logger_eq r, h]
  exact congrArg Prod.snd hlogger

/-- `attach` touches no handlers of another logger. -/
theorem handlers_attach_of_ne (h : other ≠ name) (level : Nat) (sinks : List Sink)
    (r : Registry) :
    ((r.attach name level sinks).logger other).handlers = (r.logger other).handlers :=
  Logger.handlers_eq_of_equipment <| by
    rw [equipment_logger, equipment?_attach_of_ne h, equipment_logger]

/-- `settle` touches no handlers. -/
theorem handlers_settle (r : Registry) (name : Text) (level : Nat) (other : Text) :
    ((r.settle name level).logger other).handlers = (r.logger other).handlers := by
  refine Logger.handlers_eq_of_equipment ?_
  rw [equipment_logger, equipment_logger, settle]
  by_cases hname : other = name
  · subst hname
    rw [equipment?, find?_update_self, equipment?]
    cases r.find? other with
    | none => rfl
    | some logger =>
        have hremember : ∀ verdict, (logger.remember level verdict).equipment =
            logger.equipment := fun verdict => by
          rw [Logger.remember]
          split <;> rfl
        exact hremember _
  · rw [equipment?_update_of_ne hname]

/-! ### Making loggers -/

/-- A placeholder where there is no logger does not show in `find?`. -/
theorem find?_enter_placeholder (h : r.made? name = none) (below : List Text) (other : Text) :
    (r.enter name (.placeholder below)).find? other = r.find? other := by
  rw [find?, find?]
  split
  · rfl
  · by_cases hname : other = name
    · subst hname
      simp only [made?, enter, Entries.get?_put_self]
      exact h.symm
    · simp only [made?, enter, Entries.get?_put_of_ne hname]

/-- `link` does not show in `find?`. -/
theorem find?_link (r : Registry) (name parent other : Text) :
    (r.link name parent).find? other = r.find? other := by
  rw [link]
  split
  next logger above hnode =>
    rw [find?, find?]
    split
    · rfl
    · by_cases hname : other = name
      · subst hname
        simp only [made?, enter, Entries.get?_put_self, hnode]
      · simp only [made?, enter, Entries.get?_put_of_ne hname]
  next => rfl

/-- `adopt` does not show in `find?`. -/
theorem find?_foldl_adopt (name : Text) (children : List Text) (r : Registry)
    (other : Text) : (children.foldl (adopt name) r).find? other = r.find? other := by
  induction children generalizing r with
  | nil => rfl
  | cons child rest ih =>
      rw [List.foldl_cons, ih, adopt]
      split
      · split
        · rfl
        · exact find?_link r child name other
      · rfl

/-- `climb` puts placeholders only where there are no loggers, so it does not show in `find?`. -/
theorem find?_climb (name : Text) (above : List Text) (r : Registry) (other : Text) :
    (climb name above r).2.find? other = r.find? other := by
  induction above generalizing r with
  | nil => rfl
  | cons first rest ih =>
      rw [climb]
      split
      next => rfl
      next hnone => rw [ih, find?_enter_placeholder (by simpa using hnone)]

/-- A bare logger at a name is the one that is found there. -/
theorem find?_enter_bare (hroot : name ≠ rootName) (r : Registry) (other : Text) :
    (r.enter name (.made {} rootName)).find? other =
      if other = name then some {} else r.find? other := by
  by_cases hname : other = name
  · subst hname
    simp only [find?, if_neg hroot, made?, enter, Entries.get?_put_self, if_true]
  · simp only [find?, made?, enter, Entries.get?_put_of_ne hname, if_neg hname]

/-- After `make`, there is a bare logger of the name, unless one has been there before, and the
others stay what they are. -/
theorem find?_make (r : Registry) (name other : Text) :
    (r.make name).find? other =
      if other = name then some (r.logger name) else r.find? other := by
  rw [make, logger_eq]
  split
  next hthere =>
    split
    next hname =>
      subst hname
      rcases hthere with hroot | hmade
      · simp [find?, hroot]
      · obtain ⟨logger, hlogger⟩ := Option.isSome_iff_exists.mp hmade
        rw [find?]
        split
        · rfl
        · rw [hlogger, Option.getD_some]
    next => rfl
  next hnew =>
    rw [not_or] at hnew
    obtain ⟨hroot, hnone⟩ := hnew
    have hnone : r.find? name = none := by
      rw [find?, if_neg hroot]
      simpa using hnone
    rw [hnone, Option.getD_none, ← find?_enter_bare hroot]
    calc (Registry.link _ name _).find? other
        = (climb name (namesAbove name.reverse) _).2.find? other := find?_link _ _ _ _
      _ = ((r.below name).foldl (adopt name) (r.enter name (.made {} rootName))).find? other :=
          find?_climb _ _ _ _
      _ = (r.enter name (.made {} rootName)).find? other := find?_foldl_adopt _ _ _ _

/-- `make` leaves the others what they are. -/
theorem find?_make_of_ne (h : other ≠ name) (r : Registry) :
    (r.make name).find? other = r.find? other := by
  rw [find?_make, if_neg h]

/-- `make` leaves a logger that is there what it is. -/
theorem find?_make_of_eq_some {logger : Logger} (h : r.find? other = some logger)
    (name : Text) : (r.make name).find? other = some logger := by
  rw [find?_make]
  split
  next hname => rw [logger_eq, ← hname, h, Option.getD_some]
  next => exact h

/-- `make` does not show in `Registry.logger`, which has a bare logger where there is none. -/
@[simp]
theorem logger_make (r : Registry) (name other : Text) :
    (r.make name).logger other = r.logger other := by
  rw [logger_eq, find?_make]
  split
  next hname => rw [hname, Option.getD_some]
  next => rw [logger_eq]

/-! ### Setting a level -/

/-- Loggers that are set to a level one after another. A logger that is set again stays what it
is. -/
theorem find?_foldl_setLevel (level : Nat) (names : List Text) (r : Registry) (name : Text) :
    (names.foldl (fun r name => r.update name (Logger.setLevel level)) r).find? name =
      if name ∈ names then (r.find? name).map (Logger.setLevel level) else r.find? name := by
  have htwice : Logger.setLevel level ∘ Logger.setLevel level = Logger.setLevel level := by
    funext logger
    simp [Logger.setLevel]
  induction names generalizing r with
  | nil => rfl
  | cons first rest ih =>
      rw [List.foldl_cons, ih]
      by_cases hname : name = first
      · subst hname
        rw [find?_update_self, Option.map_map, htwice, if_pos List.mem_cons_self]
        split <;> rfl
      · rw [find?_update_of_ne hname]
        simp only [List.mem_cons, hname, false_or]

/-- `setProgramLevel` sets the program's loggers with all their handlers, and leaves the others
alone. -/
theorem equipment?_setProgramLevel (level : Nat) (r : Registry) (name : Text) :
    (r.setProgramLevel level).equipment? name =
      if name ∈ r.programNames then
        (r.find? name).map fun logger => (logger.setLevel level).equipment
      else r.equipment? name := by
  rw [setProgramLevel, equipment?_forget, equipment?, find?_foldl_setLevel, equipment?]
  split
  · rw [Option.map_map]
    rfl
  · rfl

/-! ### The program's loggers -/

/-- `isProgramName` does not hold of the root logger. -/
theorem ne_rootName_of_isProgramName (h : isProgramName name = true) : name ≠ rootName := by
  rintro rfl
  exact absurd h (by decide)

/-- A logger of the program that `find?` finds is among `programNames`. -/
theorem mem_programNames_of_find? {logger : Logger} (hname : isProgramName name = true)
    (h : r.find? name = some logger) : name ∈ r.programNames := by
  rw [find?, if_neg (ne_rootName_of_isProgramName hname), made?] at h
  rw [programNames, List.mem_filter]
  refine ⟨?_, hname⟩
  split at h
  next found parent hnode =>
    refine List.mem_map.mpr ⟨(name, found), ?_, rfl⟩
    exact List.mem_filterMap.mpr ⟨_, Entries.mem_of_get?_eq_some hnode, rfl⟩
  next => cases h

/-- A name that is not `isProgramName` is not among `programNames`. -/
theorem not_mem_programNames (hname : isProgramName name = false) (r : Registry) :
    name ∉ r.programNames := by
  rw [programNames, List.mem_filter, hname]
  simp

/-- A logger that has handlers is one that `find?` finds. -/
theorem exists_find?_of_handlers (h : (r.logger name).handlers ≠ []) :
    ∃ logger, r.find? name = some logger := by
  rw [logger_eq] at h
  cases hfind : r.find? name with
  | none =>
      rw [hfind] at h
      exact absurd rfl h
  | some logger => exact ⟨logger, rfl⟩

/-- A logger of the program that has handlers is among `programNames`. -/
theorem mem_programNames_of_handlers (hname : isProgramName name = true)
    (h : (r.logger name).handlers ≠ []) : name ∈ r.programNames := by
  obtain ⟨logger, hfind⟩ := exists_find?_of_handlers h
  exact mem_programNames_of_find? hname hfind

/-- `setProgramLevel` sets a logger of the program that is there, with all its handlers. -/
theorem equipment_setProgramLevel {logger : Logger} (hname : isProgramName name = true)
    (h : r.find? name = some logger) (level : Nat) :
    ((r.setProgramLevel level).logger name).equipment =
      ((r.logger name).setLevel level).equipment := by
  rw [equipment_logger, equipment?_setProgramLevel, if_pos (mem_programNames_of_find? hname h),
    logger_eq, h]
  rfl

/-- So is one that has handlers, after the logger above all those of the program has been made. -/
theorem equipment_setProgramLevel_make (hname : isProgramName name = true)
    (h : (r.logger name).handlers ≠ []) (level : Nat) :
    (((r.make programName).setProgramLevel level).logger name).equipment =
      ((r.logger name).setLevel level).equipment := by
  have hmade := logger_make r programName name
  rw [← hmade] at h ⊢
  obtain ⟨found, hfind⟩ := exists_find?_of_handlers h
  exact equipment_setProgramLevel hname hfind level

/-- `setProgramLevel` sets the handlers of the program's loggers. -/
theorem handlers_setProgramLevel (hname : isProgramName name = true) (level : Nat) :
    ((r.setProgramLevel level).logger name).handlers =
      (r.logger name).handlers.map fun handler => { handler with level } := by
  cases hfind : r.find? name with
  | some logger =>
      exact Logger.handlers_eq_of_equipment (equipment_setProgramLevel hname hfind level)
  | none =>
      have hlogger := equipment_logger (r.setProgramLevel level) name
      rw [equipment?_setProgramLevel, equipment?, hfind] at hlogger
      have hbare : ((r.setProgramLevel level).logger name).handlers = [] := by
        split at hlogger <;> exact congrArg Prod.snd hlogger
      rw [hbare, logger_eq, hfind]
      rfl

/-- `setProgramLevel` leaves a logger that is not the program's alone. -/
theorem handlers_setProgramLevel_of_not (hname : isProgramName name = false) (level : Nat)
    (r : Registry) :
    ((r.setProgramLevel level).logger name).handlers = (r.logger name).handlers := by
  refine Logger.handlers_eq_of_equipment ?_
  rw [equipment_logger, equipment?_setProgramLevel, if_neg (not_mem_programNames hname r),
    equipment_logger]

end Registry

end Transcode.Log
