import Transcode.Proofs.Config.Names
import Transcode.Proofs.Config.Precedence
import Transcode.Proofs.Files.Writing
import Transcode.Proofs.Text.Utf8
import Transcode.Proofs.Value.Ascii

/-!
# Settings that agree but for logging

Two of the settings are about logging alone: the level and the log file. Two environments, or two
configuration files, may agree in all but these. Then the other settings come out the same, or both
files are refused.

Of the files it is enough that they hold objects that agree: whether the names of an object are
known does not hang on the two settings, which are known.

## Main definitions

* `Setting.forLogging` — the settings that are about logging alone;
* `Entries.AgreeBut` — entries that agree but for some names;
* `Document.AgreeAt` — two places with configuration files that agree but for logging.

## Main results

* `inEnvironment_of_agree` — a setting in environments that agree;
* `entriesAt_of_agree` — what files that agree add to a configuration.
-/

namespace Transcode

/-- The settings that are about logging alone. -/
def Setting.forLogging : List Setting := [.logLevel, .logFile]

namespace Entries

variable {ν α : Type} [DecidableEq ν]

/-- Entries that hold the same under each name but some. -/
def AgreeBut (names : List ν) (a b : Entries ν α) : Prop :=
  ∀ name, name ∉ names → get? name a = get? name b

/-- Under the name of an entry something is found. -/
theorem get?_ne_none_of_mem {entries : Entries ν α} {entry : ν × α} (h : entry ∈ entries) :
    get? entry.1 entries ≠ none := by
  induction entries with
  | nil => cases h
  | cons first rest ih =>
      rw [get?]
      split
      next => exact Option.some_ne_none _
      next hne =>
        rcases List.mem_cons.mp h with rfl | hrest
        · exact absurd rfl hne
        · exact ih hrest

end Entries

/-- Environments that agree but for the variables of settings `forLogging`. -/
def EnvironmentsAgree (e f : Entries Text Text) : Prop :=
  e.AgreeBut (Setting.forLogging.map fun setting => .ofString setting.environmentName) f

/-- `Config.inEnvironment` is the same in environments that agree, for a setting that is not about
logging. -/
theorem Config.inEnvironment_of_agree {e f : Entries Text Text} (h : EnvironmentsAgree e f)
    {setting : Setting} (hsetting : setting ∉ Setting.forLogging) :
    inEnvironment e setting = inEnvironment f setting := by
  have hname : Text.ofString setting.environmentName ∉
      Setting.forLogging.map fun setting => .ofString setting.environmentName := by
    revert hsetting
    cases setting <;> decide
  rw [inEnvironment, inEnvironment, h _ hname]

/-- `Files.has` holds of what can be read, at a path that is not empty. -/
theorem Files.has_of_read {f : Files} {path : Text} {bytes : List UInt8}
    (h : f.read path = .ok bytes) : f.has path = true ∧ path ≠ [] := by
  unfold read at h
  split at h
  next => cases h
  next hrefusal =>
    split at h
    next => cases h
    next location htarget =>
      split at h
      next => cases h
      next hslash =>
        refine ⟨by simp [has, hrefusal, htarget, hslash], ?_⟩
        obtain ⟨name, hname, -⟩ := exists_getLast?_of_target (Or.inl htarget)
        rintro rfl
        cases hname
    all_goals cases h

namespace Document

/-! ### Objects in files -/

/-- `entriesAt` of a path where something is are its entries, if it is a file that holds an object.
-/
theorem entriesAt_of_has {files : Files} {path : Text} (hgiven : path ≠ [])
    (hthere : files.has path = true) :
    entriesAt files (.text path) =
      match read files path with
      | .error fault => .error fault
      | .ok (.object entries) => .ok entries
      | .ok value => .error (.lacks value.kind "items") := by
  have hpath : ¬(Value.text path).isEmpty = true := by simpa [Value.isEmpty] using hgiven
  unfold entriesAt
  exact (if_neg hpath).trans (if_pos hthere)

/-- `entriesAt` of a file that can be read are the entries of its object. -/
theorem entriesAt_of_read {files : Files} {path : Text} {bytes : List UInt8}
    (h : files.read path = .ok bytes) :
    entriesAt files (.text path) =
      match ofBytes bytes with
      | .error fault => .error fault
      | .ok (.object entries) => .ok entries
      | .ok value => .error (.lacks value.kind "items") := by
  obtain ⟨hhas, hne⟩ := Files.has_of_read h
  have hread : read files path = ofBytes bytes := by
    unfold read
    simp only [h]
  rw [entriesAt_of_has hne hhas, hread]

/-- The object that the file at a path holds, whatever its names are. -/
def objectAt? (files : Files) (path : Text) : Option (Entries Text Value) := do
  let bytes ← (files.read path).toOption
  let text ← (Text.Utf8.decode bytes).toOption
  match Value.read (Text.unifyLineEnds text) with
  | .ok (.object entries) => some entries
  | _ => none

/-- Two places have configuration files that agree but for logging: the same file or none, or two
files with objects that agree. -/
def AgreeAt (f g : Files) (path : Value) : Prop :=
  f.SameAt g path ∨
    ∃ t as bs, path = .text t ∧ objectAt? f t = some as ∧ objectAt? g t = some bs ∧
      as.AgreeBut (Setting.forLogging.map fun setting => .ofString setting.name) bs

theorem eq_ok_of_toOption {ε α : Type} {x : Except ε α} {value : α}
    (h : x.toOption = some value) : x = .ok value := by
  cases x with
  | error e => cases h
  | ok found => exact congrArg Except.ok (Option.some.inj h)

/-- An object in a file comes from its bytes and their text. -/
theorem exists_of_objectAt? {files : Files} {path : Text} {entries : Entries Text Value}
    (h : objectAt? files path = some entries) :
    ∃ bytes text, files.read path = .ok bytes ∧ Text.Utf8.decode bytes = .ok text ∧
      Value.read (Text.unifyLineEnds text) = .ok (.object entries) := by
  rw [objectAt?] at h
  obtain ⟨bytes, hbytes, h⟩ := Option.bind_eq_some_iff.mp h
  obtain ⟨text, htext, h⟩ := Option.bind_eq_some_iff.mp h
  refine ⟨bytes, text, eq_ok_of_toOption hbytes, eq_ok_of_toOption htext, ?_⟩
  split at h
  next object hvalue => rw [hvalue, Option.some.inj h]
  next => cases h

/-- `objectAt?` finds an object that has been written in its file. -/
theorem objectAt?_of_write {files : Files} {path : Text} {entries : Entries Text Value}
    (h : (Value.object entries).IsPlain Value.maxDepth)
    (hbytes : files.read path = .ok (Text.Utf8.encode (Value.object entries).write)) :
    objectAt? files path = some entries := by
  rw [objectAt?, hbytes]
  refine Option.bind_eq_some_iff.mpr ⟨_, rfl, ?_⟩
  rw [Text.Utf8.decode_encode]
  refine Option.bind_eq_some_iff.mpr ⟨_, rfl, ?_⟩
  rw [h.unifyLineEnds_write, Value.read_write h]

/-- `entriesAt` takes the object of a file as it is, once its names have been checked. -/
theorem entriesAt_of_objectAt? {files : Files} {path : Text} {entries : Entries Text Value}
    (h : objectAt? files path = some entries) :
    (entries.map Prod.fst).Nodup ∧
      entriesAt files (.text path) = (check (.object entries)).map fun _ => entries := by
  obtain ⟨bytes, text, hbytes, htext, hvalue⟩ := exists_of_objectAt? h
  obtain ⟨members, -, hmembers⟩ := Value.members?_of_read hvalue
  refine ⟨hmembers ▸ Entries.nodup_ofList members, ?_⟩
  rw [entriesAt_of_read hbytes]
  simp only [ofBytes, htext, hvalue]
  cases hcheck : check (.object entries) with
  | error fault => rfl
  | ok checked =>
      rw [eq_of_check hcheck]
      rfl

section Agree

variable {as bs : Entries Text Value}

/-- `AgreeBut` leaves the names of an object known if those of the other one are. -/
theorem known_of_agree
    (h : as.AgreeBut (Setting.forLogging.map fun setting => .ofString setting.name) bs)
    (hknown : ∀ entry ∈ as, Setting.find? entry.1 ≠ none) :
    ∀ entry ∈ bs, Setting.find? entry.1 ≠ none := by
  intro entry hentry
  by_cases hname : entry.1 ∈ Setting.forLogging.map fun setting => Text.ofString setting.name
  · revert hname
    generalize entry.1 = name
    revert name
    decide
  · have hfound := Entries.get?_ne_none_of_mem hentry
    rw [← h _ hname] at hfound
    obtain ⟨value, hvalue⟩ := Option.ne_none_iff_exists'.mp hfound
    exact hknown (entry.1, value) (Entries.mem_of_get?_eq_some hvalue)

/-- `AgreeBut` leaves the last value of a setting that is not about logging. -/
theorem last?_of_agree
    (h : as.AgreeBut (Setting.forLogging.map fun setting => .ofString setting.name) bs)
    (has : (as.map Prod.fst).Nodup) (hbs : (bs.map Prod.fst).Nodup) {setting : Setting}
    (hsetting : setting ∉ Setting.forLogging) :
    Entries.last? (.ofString setting.name) as = Entries.last? (.ofString setting.name) bs := by
  have hname : Text.ofString setting.name ∉
      Setting.forLogging.map fun setting => .ofString setting.name := by
    revert hsetting
    cases setting <;> decide
  rw [Entries.last?_eq_get? has, Entries.last?_eq_get? hbs, h _ hname]

end Agree

/-- **Files that agree but for logging** are at fault in one way, or both have unknown names, or
give each of the other settings the same. -/
theorem entriesAt_of_agree {f g : Files} {path : Value} (h : AgreeAt f g path) :
    (∃ fault, entriesAt f path = .error fault ∧ entriesAt g path = .error fault) ∨
      (∃ as bs, entriesAt f path = .error (.unknownSettings as) ∧
        entriesAt g path = .error (.unknownSettings bs)) ∨
      ∃ as bs, entriesAt f path = .ok as ∧ entriesAt g path = .ok bs ∧
        ∀ setting ∉ Setting.forLogging,
          Entries.last? (.ofString setting.name) as = Entries.last? (.ofString setting.name) bs := by
  obtain hsame | ⟨t, as, bs, rfl, has, hbs, hagree⟩ := h
  · rw [entriesAt_congr hsame]
    cases entriesAt g path with
    | error fault => exact .inl ⟨fault, rfl, rfl⟩
    | ok entries => exact .inr (.inr ⟨entries, entries, rfl, rfl, fun _ _ => rfl⟩)
  · obtain ⟨hnodup, hentries⟩ := entriesAt_of_objectAt? has
    obtain ⟨hnodup', hentries'⟩ := entriesAt_of_objectAt? hbs
    have hback : bs.AgreeBut (Setting.forLogging.map fun setting => .ofString setting.name) as :=
      fun name hname => (hagree name hname).symm
    rw [hentries, hentries']
    right
    by_cases hknown : ∀ entry ∈ as, Setting.find? entry.1 ≠ none
    · right
      rw [check_object_of_known hknown, check_object_of_known (known_of_agree hagree hknown)]
      exact ⟨as, bs, rfl, rfl, fun _ hsetting => last?_of_agree hagree hnodup hnodup' hsetting⟩
    · left
      have hknown' : ¬∀ entry ∈ bs, Setting.find? entry.1 ≠ none := fun h =>
        hknown (known_of_agree hback h)
      push Not at hknown hknown'
      obtain ⟨unknown, hcheck⟩ := exists_check_object_of_unknown hknown
      obtain ⟨unknown', hcheck'⟩ := exists_check_object_of_unknown hknown'
      rw [hcheck, hcheck']
      exact ⟨unknown, unknown', rfl, rfl⟩

end Document

end Transcode
