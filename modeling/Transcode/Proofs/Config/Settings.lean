import Transcode.Config.Basic
import Transcode.Proofs.Entries.Repeated

/-!
# What settings hold

Values are given to a configuration by name, one after another, and a setting holds what it was
given last. Whatever the configuration held before is gone for the settings that are given, so a
configuration to which all settings of another one are given has the settings of that one.

## Main results

* `entries_putAll` — giving values by name is writing them into the entries;
* `get_putAll` — a setting after several values have been given;
* `putAll_putAll` — giving the same values again changes nothing;
* `get_ofEnvironment`, `get_putAll_settings`, `get?_putAll_settings_of_ne` — the settings of the
  environment, and those of another configuration, with what they leave alone.
-/

namespace Transcode.Config

/-- `putAll` writes values into the entries one after another. -/
theorem entries_putAll (entries : List (Text × Value)) (c : Config) :
    (c.putAll entries).entries = Entries.putAll entries c.entries := by
  induction entries generalizing c with
  | nil => rfl
  | cons entry rest ih => exact ih (c.putNamed entry.1 entry.2)

/-- `putAll` leaves a setting with the last of several values given by its name. -/
theorem get_putAll (entries : List (Text × Value)) (c : Config) (setting : Setting) :
    (c.putAll entries).get setting =
      (Entries.last? (.ofString setting.name) entries).getD (c.get setting) := by
  rw [get, entries_putAll, Entries.get?_putAll, get]
  cases Entries.last? (.ofString setting.name) entries <;> rfl

/-- `putAll` of two lists together gives one after the other. -/
theorem putAll_append (first second : List (Text × Value)) (c : Config) :
    c.putAll (first ++ second) = (c.putAll first).putAll second :=
  List.foldl_append

/-- `putAll` of the same values again changes nothing. -/
theorem putAll_putAll (entries : List (Text × Value)) (c : Config) :
    (c.putAll entries).putAll entries = c.putAll entries := by
  have h := Entries.putAll_putAll entries c.entries
  rw [← entries_putAll, ← entries_putAll] at h
  exact congrArg Config.mk h

/-- `get` of the configuration of an environment is `inEnvironment`. -/
theorem get_ofEnvironment (environment : Entries Text Text) (setting : Setting) :
    (ofEnvironment environment).get setting = inEnvironment environment setting := by
  cases setting <;>
    simp [ofEnvironment, Setting.all, get_put_self, get_put_of_ne]

/-- `putAll` of all settings of another configuration gives the settings of that one. -/
theorem get_putAll_settings (c other : Config) (setting : Setting) :
    (c.putAll other.settings).get setting = other.get setting := by
  rw [get_putAll]
  cases setting <;> simp [settings, Setting.all, Setting.name, Entries.last?]

/-- `putAll` of settings leaves what stands under the name of no setting alone. -/
theorem get?_putAll_settings_of_ne (c other : Config) {name : Text}
    (h : ∀ setting : Setting, name ≠ .ofString setting.name) :
    Entries.get? name (c.putAll other.settings).entries = Entries.get? name c.entries := by
  have hname : name ∉ other.settings.map Prod.fst := by
    rintro hmem
    obtain ⟨entry, hentry, rfl⟩ := List.mem_map.mp hmem
    obtain ⟨setting, -, rfl⟩ := List.mem_map.mp hentry
    exact h setting rfl
  rw [entries_putAll, Entries.get?_putAll, Entries.last?_eq_none hname, Option.none_or]

end Transcode.Config
