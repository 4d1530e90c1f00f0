import Transcode.Proofs.Config.Names
import Transcode.Proofs.Entries.Repeated
import Transcode.Proofs.Files.Writing
import Transcode.Proofs.Session.Actions
import Transcode.Proofs.Session.Settings
import Transcode.Proofs.Text.Utf8
import Transcode.Proofs.Value.Ascii

/-!
# Configurations that are saved and loaded

A configuration that is saved to a file is read back from it with all its settings, and so it is by
loading the file in whatever session, since a file that gives all settings leaves nothing to the
environment or to what the settings were before.

A file that has been written is there and holds what was written, its bytes are those of the text,
the text is that of an object, and the names of the object are those of the settings: each of these
steps back has its lemma, and they are put together here.

## Main definitions

* `Config.IsPlain` — the configurations that are kept by saving.

## Main results

* `ofBytes_text` — the text of a configuration is read back from its bytes;
* `exists_of_on_save` — the files after saving;
* `load_saved` — the settings that were saved are there again.
-/

namespace Transcode

/-- A configuration with entries for the settings and no others, whose values are kept when they are
saved, by `Value.IsPlain`. -/
structure Config.IsPlain (c : Config) : Prop where
  names : (c.entries.map Prod.fst).Perm (Setting.all.map fun setting => .ofString setting.name)
  values : ∀ setting, (c.get setting).IsPlain (Value.maxDepth - 1)

/-! ### The names of settings -/

namespace Setting

theorem mem_all (setting : Setting) : setting ∈ all := by
  cases setting <;> decide

/-- `find?` finds the setting of the name of one. -/
theorem find?_name (setting : Setting) : find? (.ofString setting.name) = some setting := by
  cases setting <;> decide

/-- No two settings have one name. -/
theorem nodup_names : (all.map fun setting => Text.ofString setting.name).Nodup := by
  decide

end Setting

namespace Config.IsPlain

variable {c : Config} (h : c.IsPlain)

include h

/-- Each setting has one entry. -/
theorem nodup_names : (c.entries.map Prod.fst).Nodup :=
  h.names.nodup_iff.mpr Setting.nodup_names

/-- An entry is that of a setting. -/
theorem exists_setting {entry : Text × Value} (hentry : entry ∈ c.entries) :
    ∃ setting : Setting, entry.1 = .ofString setting.name ∧ entry.2 = c.get setting := by
  have hname := h.names.mem_iff.mp (List.mem_map_of_mem hentry)
  obtain ⟨setting, -, hsetting⟩ := List.mem_map.mp hname
  have hvalue := Entries.get?_eq_some_of_mem h.nodup_names hentry
  refine ⟨setting, hsetting.symm, ?_⟩
  rw [← hsetting] at hvalue
  rw [Config.get, hvalue]
  rfl

/-- A setting has the last value that is given to its name. -/
theorem last?_entries (setting : Setting) :
    Entries.last? (.ofString setting.name) c.entries = some (c.get setting) := by
  have hname : Text.ofString setting.name ∈ c.entries.map Prod.fst :=
    h.names.mem_iff.mpr (List.mem_map_of_mem (Setting.mem_all setting))
  obtain ⟨entry, hentry, heq⟩ := List.mem_map.mp hname
  have hvalue := Entries.get?_eq_some_of_mem h.nodup_names hentry
  rw [Entries.last?_eq_get? h.nodup_names, Config.get, ← heq, hvalue]
  rfl

/-- The object of the entries is kept when it is saved. -/
theorem object : (Value.object c.entries).IsPlain Value.maxDepth := by
  refine .object h.nodup_names ?_ ?_
  · intro entry hentry
    obtain ⟨setting, hname, -⟩ := h.exists_setting hentry
    rw [hname]
    exact Text.hasNoHalf_ofString _
  · intro entry hentry
    obtain ⟨setting, -, hvalue⟩ := h.exists_setting hentry
    rw [hvalue]
    exact h.values setting

/-- An entry has the name of a setting. -/
theorem find?_ne_none {entry : Text × Value} (hentry : entry ∈ c.entries) :
    Setting.find? entry.1 ≠ none := by
  obtain ⟨setting, hname, -⟩ := h.exists_setting hentry
  rw [hname, Setting.find?_name]
  exact Option.some_ne_none setting

/-! ### Reading the text -/

/-- `Document.ofBytes` reads the text of a configuration back. -/
theorem ofBytes_text :
    Document.ofBytes (Text.Utf8.encode c.text) = .ok (.object c.entries) := by
  rw [Config.text, Document.ofBytes, Text.Utf8.decode_encode]
  dsimp only
  rw [h.object.unifyLineEnds_write, Value.read_write h.object]
  exact Document.check_object_of_known fun _ hentry => h.find?_ne_none hentry

/-- `Config.ofEntries` of the entries has their settings. -/
theorem exists_ofEntries :
    ∃ loaded, Config.ofEntries c.entries = .ok loaded ∧
      ∀ setting, loaded.get setting = c.get setting := by
  refine ⟨_, Config.ofEntries_of_known fun _ => h.find?_ne_none, fun setting => ?_⟩
  rw [Config.get_putAll, h.last?_entries]
  rfl

/-- A configuration with the same settings is the `Config.same`. -/
theorem same_of_get {loaded : Config} (hget : ∀ setting, loaded.get setting = c.get setting) :
    loaded.same c = true := by
  rw [Config.same, List.all_eq_true]
  intro setting _
  rw [hget]
  exact (h.values setting).same_self

end Config.IsPlain

namespace Session

/-- `Session.save` leaves the text of the configuration in the file. -/
theorem exists_of_on_save {c : Config} {path : Text} {s after : Session} {text : String}
    (h : (save c path).on s = (.ok text, after)) :
    ∃ location, s.files.writable path = .ok location ∧
      after = { s with files := s.files.store location (Text.Utf8.encode c.text) } := by
  rw [save, Action.on_bind, Action.on_get] at h
  dsimp only at h
  rw [Files.write] at h
  cases hlocation : s.files.writable path with
  | error fault =>
      rw [hlocation] at h
      cases h
  | ok location =>
      rw [hlocation] at h
      cases h
      exact ⟨location, rfl, rfl⟩

/-- **Saving and loading loses nothing.** A configuration that has been saved is read back by
`Config.ofFile` as an equal one, and `Session.load` of the file gives every session with these files
the settings that were saved, whatever its environment and its settings are. -/
theorem load_saved {c : Config} (hc : c.IsPlain) {path : Text} {s after : Session} {text : String}
    (h : (save c path).on s = (.ok text, after)) :
    (∃ loaded, Config.ofFile after.files path = .ok loaded ∧ loaded.same c = true ∧
      ∀ setting, loaded.get setting = c.get setting) ∧
    ∀ t : Session, t.files = after.files →
      ∃ config, (load (.text path)).on t = (.ok config, { t with config }) ∧
        ∀ setting, config.get setting = c.get setting := by
  obtain ⟨location, hwritable, rfl⟩ := exists_of_on_save h
  have hread : Document.read (s.files.store location (Text.Utf8.encode c.text)) path =
      .ok (.object c.entries) := by
    rw [Document.read, Files.read_store hwritable]
    exact hc.ofBytes_text
  refine ⟨?_, fun t ht => ?_⟩
  · obtain ⟨loaded, hloaded, hget⟩ := hc.exists_ofEntries
    refine ⟨loaded, ?_, hc.same_of_get hget, hget⟩
    rw [Config.ofFile, hread]
    exact hloaded
  · have hentries : Document.entriesAt t.files (.text path) = .ok c.entries := by
      have hgiven : (Value.text path).isEmpty = false := by
        simpa [Value.isEmpty] using Files.ne_nil_of_writable hwritable
      rw [ht, Document.entriesAt, if_neg (by simp [hgiven])]
      dsimp only
      rw [if_pos (Files.has_store hwritable), hread]
    rw [on_load, hentries]
    refine ⟨_, rfl, fun setting => ?_⟩
    rw [Config.get_putAll, hc.last?_entries]
    rfl

/-- Texts with escapes of each kind, a number below zero, and an object in a list. -/
theorem load_saved_of_nested :
    let c : Config := ⟨[("ffmpeg_path", .text "C:\\\"bin\"\n\u0007é\u2028😀"),
      ("preset", .list [.object [("", .list []), ("né", .bool false)], .null]),
      ("log_level", .int (-10)), ("log_file", .object [])]⟩
    c.IsPlain ∧ ∃ text after, (save c "c.json").on (Session.fresh ⟨[], [], []⟩ "") =
      (.ok text, after) ∧
      (∃ loaded, Config.ofFile after.files "c.json" = .ok loaded ∧ loaded.same c = true ∧
        ∀ setting, loaded.get setting = c.get setting) ∧
      ∀ t : Session, t.files = after.files →
        ∃ config, (load (.text "c.json")).on t = (.ok config, { t with config }) ∧
          ∀ setting, config.get setting = c.get setting := by
  intro c
  have hplain : c.IsPlain := by
    refine ⟨by decide, fun setting => ?_⟩
    cases setting with
    | program => exact .text (Text.hasNoHalf_ofString _)
    | logLevel => exact .int (by decide)
    | logFile => exact .object List.nodup_nil (by simp) (by simp)
    | preset =>
        have hempty : (Value.list []).IsPlain 984 := .list (by simp)
        have hobject : (Value.object [("", .list []), ("né", .bool false)]).IsPlain 985 := by
          refine .object (by decide) ?_ ?_
          · simp [Text.hasNoHalf_ofString]
          · simp [Value.IsPlain.bool, hempty]
        refine .list ?_
        simp [hobject, Value.IsPlain.null]
  have hok : ((save c "c.json").on (Session.fresh ⟨[], [], []⟩ "")).1.isOk = true := by
    decide +kernel
  obtain ⟨text, after, hsave⟩ := Action.exists_of_isOk hok
  exact ⟨hplain, text, after, hsave, load_saved hplain hsave⟩

end Session

end Transcode
