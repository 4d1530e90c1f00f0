import Transcode.CommandLine.Options
import Transcode.Proofs.Text.Pieces

/-!
# Switches with glued values

A long switch with its value glued to it after an equals sign is that switch with that value,
whatever the value is: it may be empty, begin with hyphens, or hold blanks and more equals signs.
No spelling of a switch holds an equals sign, so the first one of an argument ends the spelling.

## Main definitions

* `Switch.long` — the long spelling of a switch;
* `Switch.glued` — a switch with a value glued to it.

## Main results

* `classify_glued` — what such an argument is on its own;
* `parse_map_glued` — a command line of such arguments gives each switch its value in turn.
-/

namespace Transcode

namespace CommandLine

namespace Switch

/-- The long spelling of a switch. -/
def long : Switch → String
  | .help => "--help"
  | .listPresets => "--list-presets"
  | .preset => "--preset"
  | .input => "--input"
  | .output => "--output"
  | .config => "--config"
  | .logLevel => "--log-level"

/-- A switch with a value glued to it. -/
def glued (switch : Switch) (value : String) : String :=
  switch.long ++ "=" ++ value

/-- `Switch.find?` finds a switch by its `long` spelling. -/
theorem find?_long (switch : Switch) : find? switch.long = some switch := by
  cases switch <;> decide

/-- A `long` spelling begins with two hyphens, and holds no equals sign. -/
theorem exists_toList_long (switch : Switch) :
    ∃ rest, switch.long.toList = '-' :: '-' :: rest ∧ '=' ∉ '-' :: '-' :: rest := by
  cases switch <;> exact ⟨_, rfl, by decide⟩

/-- `Switch.find?` finds nothing with an equals sign in it. -/
theorem find?_eq_none {spelling : String} (h : '=' ∈ spelling.toList) : find? spelling = none := by
  rw [find?, List.find?_eq_none]
  intro switch _ hmem
  rw [List.contains_iff_mem] at hmem
  have hspellings : ∀ other ∈ switch.spellings, '=' ∉ other.toList := by
    cases switch <;> decide
  exact hspellings spelling hmem h

end Switch

namespace Argument

/-- `classify` takes a `glued` value for the value of its switch. -/
theorem classify_glued (switch : Switch) (value : String) :
    classify (switch.glued value) = .ok (.known switch false (some value.toList)) := by
  obtain ⟨rest, hlong, heq⟩ := switch.exists_toList_long
  have htext : (switch.glued value).toList = '-' :: '-' :: (rest ++ '=' :: value.toList) := by
    simp [Switch.glued, hlong]
  have hmem : '=' ∈ (switch.glued value).toList := by simp [htext]
  have hmark : switch.glued value ≠ "--" := by
    intro h
    rw [h] at hmem
    exact absurd hmem (by decide)
  have hcut :
      Text.cutAt? '=' (switch.glued value).toList = some (switch.long.toList, value.toList) := by
    rw [htext, hlong]
    exact Text.cutAt?_append heq value.toList
  have hspelled : spelledOut? (switch.glued value).toList =
      some (.known switch false (some value.toList)) := by
    rw [spelledOut?, String.ofList_toList, Switch.find?_eq_none hmem]
    dsimp only
    rw [hcut]
    dsimp only
    rw [String.ofList_toList, Switch.find?_long]
    simp [ofSpelling, hlong]
  rw [classify, hspelled, htext, if_neg hmark]
  rfl

/-- `classifyAll` takes each of several `glued` values for what it is on its own. -/
theorem classifyAll_map_glued (items : List (Switch × String)) :
    classifyAll (items.map fun item => item.1.glued item.2) =
      .ok (items.map fun item =>
        (item.1.glued item.2, .known item.1 false (some item.2.toList))) := by
  induction items with
  | nil => rfl
  | cons item rest ih =>
      rw [List.map_cons, classifyAll, classify_glued, ih]
      rfl

end Argument

namespace Options

/-- Switches get their values one after another, by `Options.assign`. -/
def assignAll (o : Options) (items : List (Switch × String)) : Except Stop Options :=
  items.foldlM (fun o item => o.assign item.1 item.2) o

/-- `cluster` takes what is glued to a switch that `takesValue` for its value. -/
theorem cluster_of_takesValue {switch : Switch} (h : switch.takesValue = true) (value : String) :
    cluster switch false value.toList = .ok ⟨[], switch, some value⟩ := by
  cases hvalue : value.toList with
  | nil =>
      rw [cluster, if_pos h, String.toList_eq_nil_iff.mp hvalue]
  | cons c rest =>
      rw [cluster, if_pos h, ← hvalue, String.ofList_toList]

/-- `take` lets switches with glued values take effect one after another. The induction is on the
switches. -/
theorem take_map_glued {items : List (Switch × String)}
    (h : ∀ item ∈ items, item.1.takesValue = true) (o : Options) :
    o.take [] (items.map fun item =>
        (item.1.glued item.2, .known item.1 false (some item.2.toList))) =
      o.assignAll items := by
  induction items generalizing o with
  | nil => rfl
  | cons item rest ih =>
      rw [List.map_cons, take, clusterOf, cluster_of_takesValue (h item List.mem_cons_self),
        assignAll, List.foldlM_cons]
      dsimp only [flags]
      cases o.assign item.1 item.2 with
      | error stop => rfl
      | ok o => exact ih (fun other hother => h other (List.mem_cons_of_mem _ hother)) o

/-- **`Options.parse` of long switches with glued values** gives each switch its value in turn. -/
theorem parse_map_glued (items : List (Switch × String))
    (h : ∀ item ∈ items, item.1.takesValue = true) :
    parse (items.map fun item => item.1.glued item.2) = ({} : Options).assignAll items := by
  rw [parse, Argument.classifyAll_map_glued]
  exact take_map_glued h {}

end Options

end CommandLine

end Transcode
