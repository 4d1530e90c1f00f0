import Transcode.Proofs.Log.Equipment

/-!
# Decisions of loggers

The first record of a level that comes to a logger settles whether records of that level are let
through. What is remembered is what would be decided anew, and neither levels nor handlers are
touched. So a decision shows nowhere: not in what a logger lets through, and not in the handlers
that get it.

## Main results

* `map_chainFrom_update` — a logger and those above it, after a change that does not show;
* `handlersOf_settle`, `admits_settle` — a decision shows nowhere.
-/

namespace Transcode.Log

/-- `Logger.remember` touches the decisions only. -/
theorem Logger.remember_eq (level : Nat) (verdict : Bool) (logger : Logger) :
    ∃ decisions, logger.remember level verdict = { logger with decisions } := by
  rw [remember]
  split
  · exact ⟨logger.decisions, rfl⟩
  · exact ⟨_, rfl⟩

/-- `Logger.remember` of a level leaves there what had been decided, or the verdict. -/
theorem Logger.decision?_remember (level : Nat) (verdict : Bool) (logger : Logger) :
    (logger.remember level verdict).decision? level =
      some ((logger.decision? level).getD verdict) := by
  rw [remember]
  split
  next hsome =>
    obtain ⟨decided, hdecided⟩ := Option.isSome_iff_exists.mp hsome
    rw [hdecided]
    rfl
  next hnone =>
    rw [Option.not_isSome_iff_eq_none.mp hnone, decision?, List.lookup_cons_self]
    rfl

/-- `Logger.remember` decides nothing on other levels. -/
theorem Logger.decision?_remember_of_ne {level other : Nat} (h : other ≠ level) (verdict : Bool)
    (logger : Logger) : (logger.remember level verdict).decision? other = logger.decision? other := by
  rw [remember]
  split
  · rfl
  · rw [decision?, List.lookup_cons, beq_eq_false_iff_ne.mpr h]
    rfl

namespace Registry

variable {r : Registry} {name other : Text} {level : Nat}

/-- What stands at a name, after an `update`. -/
theorem get?_update (r : Registry) (name : Text) (change : Logger → Logger) (other : Text) :
    Entries.get? other (r.update name change).entries = Entries.get? other r.entries ∨
      Entries.get? other (r.update name change).entries =
        (Entries.get? other r.entries).map (Node.map change) := by
  rw [update]
  split
  · exact .inl rfl
  · split
    next node hnode =>
      by_cases hother : other = name
      · rw [hother, hnode, enter, Entries.get?_put_self]
        exact .inr rfl
      · exact .inl (Entries.get?_put_of_ne hother _ _)
    next => exact .inl rfl

/-- What an `update` does not change in the logger itself is the same in each `chainFrom` a name. -/
theorem map_chainFrom_update {α : Type} {f : Logger → α} {change : Logger → Logger}
    (hf : ∀ logger, f (change logger) = f logger) (r : Registry) (name : Text) (fuel : Nat)
    (other : Text) :
    ((r.update name change).chainFrom fuel other).map f = (r.chainFrom fuel other).map f := by
  have hroot : f (r.update name change).root = f r.root := by
    rw [update]
    split
    · exact hf r.root
    · split <;> rfl
  induction fuel generalizing other with
  | zero => exact congrArg (fun x => [x]) hroot
  | succ fuel ih =>
      rw [chainFrom, chainFrom]
      rcases get?_update r name change other with hsame | hchanged
      · rw [hsame]
        split
        · exact congrArg (_ :: ·) (ih _)
        · exact congrArg (fun x => [x]) hroot
      · rw [hchanged]
        cases Entries.get? other r.entries with
        | none => exact congrArg (fun x => [x]) hroot
        | some node =>
            cases node with
            | placeholder below => exact congrArg (fun x => [x]) hroot
            | made logger parent => exact congrArg₂ List.cons (hf logger) (ih parent)

/-- What `settle` does not touch is the same all the way up a `chain`. -/
theorem map_chain_settle {α : Type} {f : Logger → α}
    (hf : ∀ (logger : Logger) decisions, f { logger with decisions } = f logger) (r : Registry)
    (name : Text) (level : Nat) (other : Text) :
    ((r.settle name level).chain other).map f = (r.chain other).map f := by
  refine map_chainFrom_update (fun logger => ?_) r name _ other
  obtain ⟨decisions, h⟩ := Logger.remember_eq level (r.admits name level) logger
  rw [h, hf]

/-- `settle` does not show in `handlersOf`. -/
theorem handlersOf_settle (r : Registry) (name : Text) (level : Nat) (other : Text) :
    (r.settle name level).handlersOf other = r.handlersOf other := by
  rw [handlersOf, List.flatMap_def, map_chain_settle fun _ _ => rfl, ← List.flatMap_def, handlersOf]

/-- `settle` does not show in `threshold`. -/
theorem threshold_settle (r : Registry) (name : Text) (level : Nat) (other : Text) :
    (r.settle name level).threshold other = r.threshold other := by
  rw [threshold, map_chain_settle fun _ _ => rfl, threshold]

/-- `settle` decides on a level what `admits` says anyway. -/
theorem decision?_settle (r : Registry) (name : Text) (level : Nat) (other : Text)
    (level' : Nat) :
    ((r.settle name level).logger other).decision? level' = (r.logger other).decision? level' ∨
      other = name ∧ level' = level ∧
        ((r.settle name level).logger other).decision? level' = some (r.admits name level) := by
  by_cases hother : other = name
  · rw [hother, logger_eq, settle, find?_update_self, logger_eq]
    cases hfind : r.find? name with
    | none => exact .inl rfl
    | some logger =>
        by_cases hlevel : level' = level
        · refine .inr ⟨rfl, hlevel, ?_⟩
          rw [hlevel, Option.map_some, Option.getD_some, Logger.decision?_remember, admits,
            logger_eq, hfind, Option.getD_some]
          cases logger.decision? level <;> rfl
        · exact .inl (Logger.decision?_remember_of_ne hlevel _ logger)
  · rw [logger_eq, settle, find?_update_of_ne hother, ← logger_eq]
    exact .inl rfl

/-- **`settle` does not show in `admits`**, for any name and any level. -/
theorem admits_settle (r : Registry) (name : Text) (level : Nat) (other : Text)
    (level' : Nat) : (r.settle name level).admits other level' = r.admits other level' := by
  rcases decision?_settle r name level other level' with hsame | ⟨rfl, rfl, hdecided⟩
  · rw [admits, hsame, threshold_settle, admits]
  · rw [admits, hdecided, Option.getD_some]

end Registry

end Transcode.Log
