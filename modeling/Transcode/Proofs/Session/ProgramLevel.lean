import Transcode.Proofs.Session.LevelNames

/-!
# The level of the program's loggers

Setting a level is all or nothing. With a name that stands for a level, every logger of the program
gets to that level with all its handlers, the one above them is there from then on, and no other
logger takes part, however close its name comes. With any other name the loggers stay what they are,
though the one above those of the program may have been made by the time the fault is found.

## Main definitions

* `Registry.IsSetTo` — what setting a level does to the loggers.

## Main results

* `isSetTo_setProgramLevel` — the loggers, once the one above all of them has been made;
* `setLevel_all_or_nothing` — setting a level by name.
-/

namespace Transcode

open Log (Handler Logger Registry)

namespace Log

/-- `Meaning.level?` gives the level that is meant, and no other one. -/
theorem Level.Meaning.level?_eq_ok_iff {meaning : Level.Meaning} {level : Nat} :
    meaning.level? = .ok level ↔ meaning = .level level := by
  cases meaning <;> simp [Level.Meaning.level?]

namespace Registry

/-- The program's loggers have been **set** to a level: they are all at that level, with the
handlers that they had before. The one above them is there, no other one has been made, and those
that are not the program's have the levels and handlers that they had before. -/
structure IsSetTo (level : Nat) (r after : Registry) : Prop where
  top : ∃ logger, after.find? programName = some logger
  levels : ∀ name logger, isProgramName name = true → after.find? name = some logger →
    logger.level = level ∧ ∀ handler ∈ logger.handlers, handler.level = level
  sinks : ∀ name, (after.logger name).handlers.map Handler.sink =
    (r.logger name).handlers.map Handler.sink
  made : ∀ name, name ≠ programName →
    ((after.find? name).isSome = true ↔ (r.find? name).isSome = true)
  others : ∀ name, isProgramName name = false → after.equipment? name = r.equipment? name

/-- `isProgramName` holds of `programName`. -/
theorem isProgramName_programName : isProgramName programName = true := by
  decide

/-- `equipment?` finds something where `find?` does. -/
theorem isSome_equipment? (r : Registry) (name : Text) :
    (r.equipment? name).isSome = (r.find? name).isSome :=
  Option.isSome_map

/-- `setProgramLevel` makes no logger. -/
theorem isSome_find?_setProgramLevel (level : Nat) (r : Registry) (name : Text) :
    ((r.setProgramLevel level).find? name).isSome = (r.find? name).isSome := by
  rw [← isSome_equipment?, equipment?_setProgramLevel]
  split
  · exact Option.isSome_map
  · exact isSome_equipment? r name

/-- **`setProgramLevel` sets the program's loggers**, once the one above them has been made. -/
theorem isSetTo_setProgramLevel (level : Nat) (r : Registry) :
    IsSetTo level r ((r.make programName).setProgramLevel level) where
  top := by
    rw [← Option.isSome_iff_exists, isSome_find?_setProgramLevel, find?_make, if_pos rfl,
      Option.isSome_some]
  levels name logger hname hfind := by
    have hequipment : ((r.make programName).setProgramLevel level).equipment? name =
        some logger.equipment := by
      rw [equipment?, hfind, Option.map_some]
    obtain ⟨found, hfound⟩ : ∃ found, (r.make programName).find? name = some found := by
      rw [← Option.isSome_iff_exists, ← isSome_find?_setProgramLevel level, hfind,
        Option.isSome_some]
    rw [equipment?_setProgramLevel, if_pos (mem_programNames_of_find? hname hfound), hfound,
      Option.map_some, Option.some.injEq] at hequipment
    refine ⟨(congrArg Prod.fst hequipment).symm, fun handler hmem => ?_⟩
    rw [← Logger.handlers_eq_of_equipment hequipment] at hmem
    obtain ⟨before, -, rfl⟩ := List.mem_map.mp hmem
    rfl
  sinks name := by
    cases hname : isProgramName name with
    | true =>
        rw [handlers_setProgramLevel hname, logger_make, List.map_map]
        rfl
    | false => rw [handlers_setProgramLevel_of_not hname, logger_make]
  made name hne := by
    rw [isSome_find?_setProgramLevel, find?_make_of_ne hne]
  others name hname := by
    have hne : name ≠ programName := by
      rintro rfl
      exact absurd isProgramName_programName (by simp [hname])
    rw [equipment?_setProgramLevel, if_neg (not_mem_programNames hname _), equipment?,
      find?_make_of_ne hne, equipment?]

end Registry

end Log

namespace Session

/-- **`setLevel` is all or nothing**, and works on the program's loggers only. With a name that
stands for a level it ends without a fault, and the program's loggers are set to that level. With
any other name it ends with a fault, and every logger that is there stays what it is. Nothing else
of the session is touched in either case. -/
theorem setLevel_all_or_nothing (s : Session) (name : Text) :
    let done := (setLevel (.text name)).on s
    done.2 = { s with registry := done.2.registry } ∧
    ((∃ level, Log.Level.meaning? name.plain = some (.level level) ∧ done.1 = .ok () ∧
        Registry.IsSetTo level s.registry done.2.registry) ∨
      (∀ level, Log.Level.meaning? name.plain ≠ some (.level level)) ∧
        (∃ fault, done.1 = .error fault) ∧
        ∀ logger found, s.registry.find? logger = some found →
          done.2.registry.find? logger = some found) := by
  intro done
  have hdone : done = (setLevel (.text name)).on s := rfl
  rw [on_setLevel_text] at hdone
  cases hmeaning : Log.Level.meaning? name.plain with
  | none =>
      rw [hmeaning] at hdone
      rw [hdone]
      exact ⟨rfl, .inr ⟨fun _ => by simp, ⟨_, rfl⟩, fun _ _ h => h⟩⟩
  | some meaning =>
      rw [hmeaning] at hdone
      dsimp only at hdone
      cases hlevel : meaning.level? with
      | ok level =>
          rw [hlevel] at hdone
          rw [hdone, Log.Level.Meaning.level?_eq_ok_iff.mp hlevel]
          exact ⟨rfl, .inl ⟨level, rfl, rfl, Registry.isSetTo_setProgramLevel level s.registry⟩⟩
      | error fault =>
          rw [hlevel] at hdone
          rw [hdone]
          refine ⟨rfl, .inr ⟨fun level hlevel' => ?_, ⟨fault, rfl⟩, fun logger found hfind => ?_⟩⟩
          · rw [Log.Level.Meaning.level?_eq_ok_iff.mpr (Option.some.inj hlevel')] at hlevel
            cases hlevel
          · -- the logger of the program may have been made, which changes none that is there
            exact Registry.find?_make_of_eq_some hfind Registry.programName

/-- A logger of the program, and one whose name only begins like the program's. -/
theorem setLevel_all_or_nothing_of_lookalike :
    let s := ((fresh ⟨[], [], []⟩ "").run [.getLogger (.text "ffmpeg_presets")]).2
    let done := (setLevel (.text "Warn")).on s
    done.1 = .ok () ∧
      (done.2.registry.find? "ffmpeg_preset.cli").map Logger.level = some Log.Level.warning ∧
      done.2.registry.equipment? "ffmpeg_presets" =
        some (Log.Level.info, [⟨.console, Log.Level.info⟩]) := by
  intro s done
  have hmeaning : Log.Level.meaning? (Text.plain "Warn") = some (.level Log.Level.warning) := by
    decide +kernel
  have hthere : (s.registry.find? "ffmpeg_preset.cli").isSome = true := by decide +kernel
  have hother : s.registry.equipment? "ffmpeg_presets" =
      some (Log.Level.info, [⟨.console, Log.Level.info⟩]) := by decide +kernel
  obtain ⟨-, ⟨level, hlevel, hok, hset⟩ | ⟨hnone, -⟩⟩ := setLevel_all_or_nothing s "Warn"
  · obtain rfl := Log.Level.Meaning.level.inj (Option.some.inj (hmeaning.symm.trans hlevel))
    obtain ⟨cli, hcli⟩ := Option.isSome_iff_exists.mp ((hset.made _ (by decide)).mpr hthere)
    refine ⟨hok, ?_, (hset.others _ (by decide)).trans hother⟩
    show (((setLevel _).on s).2.registry.find? _).map _ = _
    rw [hcli, Option.map_some, (hset.levels _ cli (by decide) hcli).1]
  · exact absurd hmeaning (hnone _)

end Session

end Transcode
