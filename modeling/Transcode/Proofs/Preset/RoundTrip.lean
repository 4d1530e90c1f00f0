import Transcode.Proofs.Preset.Language

/-!
# Presets and their texts

The text of a preset leaves out the normal quality and an accelerator that is none, and reading puts
the normal quality back. So a preset comes back from its text exactly if reading gives it at all.
That leaves out custom presets that look like words, the custom preset without arguments, presets
without a quality or a codec, and presets that are not in the catalogue.

## Main definitions

* `Preset.IsReadable` — the presets that reading gives, said on the preset alone;
* `Value.ofText?` — what stands for a text or for none.

## Main results

* `Preset.loweredWords_join_name` — joined names are their own words;
* `Preset.IsReadable.parse_text` — a readable preset comes back from its text;
* `Session.parse_text_round_trip` — printing and reading is the identity exactly on what is read.
-/

namespace Transcode

/-- What stands for a text, or for none. -/
def Value.ofText? : Option Text → Value
  | none => .null
  | some t => .text t

namespace Preset

/-! ### Joined names -/

/-- `IsWordPiece` holds of the canonical name of a member. -/
theorem isWordPiece_name (m : Member) : IsWordPiece m.name.toList := by
  have hword : m.name.toList.all Text.isWord = true := by
    rcases m with c | a | q
    · cases c <;> decide
    · cases a <;> decide
    · cases q <;> decide
  refine ⟨?_, List.all_eq_true.mp hword⟩
  rcases m with c | a | q
  · cases c <;> decide
  · cases a <;> decide
  · cases q <;> decide

/-- The canonical name of a member is in lower case. -/
theorem lower_name (m : Member) : Text.lower m.name = m.name := by
  rcases m with c | a | q
  · cases c <;> decide
  · cases a <;> decide
  · cases q <;> decide

/-- `splitAt` of joined names gives the names, which hold no hyphen. -/
theorem splitAt_join_name {ms : List Member} (hne : ms ≠ []) :
    Text.splitAt '-' (Text.join "-" (ms.map Member.name)).toList =
      ms.map fun m => m.name.toList := by
  rw [Text.join, String.toList_ofList, List.map_map]
  refine Text.splitAt_joinWith (mt List.map_eq_nil_iff.mp hne) ?_
  rw [List.forall_mem_map]
  intro m _ hhyphen
  have hword := (isWordPiece_name m).2 '-' hhyphen
  rw [Text.not_isWord_hyphen] at hword
  exact Bool.false_ne_true hword

/-- `IsWords` holds of joined names. -/
theorem isWords_join_name {ms : List Member} (hne : ms ≠ []) :
    IsWords (Text.ofString (Text.join "-" (ms.map Member.name))) := by
  rw [isWords_ofString_iff, isTokenForm_iff, splitAt_join_name hne, List.forall_mem_map]
  exact fun m _ => isWordPiece_name m

/-- Joined names are their own words. -/
theorem loweredWords_join_name {ms : List Member} (hne : ms ≠ []) :
    loweredWords (Text.ofString (Text.join "-" (ms.map Member.name))) = ms.map Member.name := by
  rw [loweredWords_ofString, words, splitAt_join_name hne, List.map_map, List.map_map]
  refine List.map_congr_left fun m _ => ?_
  rw [Function.comp_apply, Function.comp_apply, String.ofList_toList, lower_name]

/-- `text` of a preset of the catalogue is its names joined, without `Quality.normal`. -/
theorem text_predefined (codec : Codec) (accelerator : Option Accelerator) (quality : Quality) :
    (predefined (some codec) accelerator (some quality)).text =
      Text.ofString (Text.join "-"
        ((Named.mk (some codec) accelerator
          (if quality = .normal then none else some quality)).members.map Member.name)) := by
  rw [Named.map_name_members]
  cases quality <;> rfl

/-! ### Readable presets -/

/-- What reading gives: a custom preset whose arguments are not made of words, and a preset of the
catalogue with a quality. -/
def IsReadable : Preset → Prop
  | .custom (some arguments) => ¬ IsWords arguments
  | .predefined (some codec) accelerator (some _) => InCatalogue codec accelerator
  | _ => False

/-- `IsReadable` holds of what a text is read as. -/
theorem isReadable_of_parse {text : Text} {p : Preset} (h : parse text = .ok p) :
    IsReadable p := by
  by_cases hwords : IsWords text
  · obtain ⟨codec, accelerator, quality, rfl, -, hin⟩ :=
      (parse_eq_ok_iff_of_isWords hwords).mp h
    exact hin
  · rw [parse_of_not_isWords hwords] at h
    obtain rfl := Except.ok.inj h
    exact hwords

/-- `IsReadable` holds of `Preset.default`. -/
theorem isReadable_default : IsReadable default := by
  show ¬ IsWords "-c:v copy -c:a copy"
  decide +kernel

/-- **A preset with `IsReadable` comes back from its text.** -/
theorem IsReadable.parse_text {p : Preset} (h : IsReadable p) : parse p.text = .ok p := by
  match p, h with
  | .custom (some arguments), hwords => exact parse_of_not_isWords hwords
  | .predefined (some codec) accelerator (some quality), hin =>
      have hne : (Named.mk (some codec) accelerator
          (if quality = .normal then none else some quality)).members ≠ [] :=
        List.cons_ne_nil _ _
      rw [text_predefined, parse_eq_predefined_iff]
      refine ⟨isWords_join_name hne, ?_, hin⟩
      rw [loweredWords_join_name hne]
      refine spells_iff.mpr ⟨_, ?_, _, rfl, List.Perm.refl _⟩
      cases quality <;> rfl

end Preset

namespace Session

/-- `Session.parse` gives presets with `IsReadable` only. -/
theorem isReadable_of_parse {text : Option Text} {s : Session} {p : Preset}
    (h : ((parse (.ofText? text)).on s).1 = .ok p) : p.IsReadable := by
  cases text with
  | none =>
      rw [Value.ofText?, on_parse_null] at h
      obtain rfl := Except.ok.inj h
      exact Preset.isReadable_default
  | some t => exact Preset.isReadable_of_parse (parse_text_eq_ok_iff.mp h)

/-- **`Preset.text` and `Session.parse` are the identity exactly on what is read**, in whatever
sessions the two happen. So what was read from a text comes back from its own text, and two presets
that were read are equal exactly if their texts are. -/
theorem parse_text_round_trip (s s' : Session) :
    (∀ p : Preset, ((parse (.text p.text)).on s').1 = .ok p ↔
      ∃ text : Option Text, ((parse (.ofText? text)).on s).1 = .ok p) ∧
    (∀ (text : Option Text) (p : Preset), ((parse (.ofText? text)).on s).1 = .ok p →
      ((parse (.text p.text)).on s').1 = .ok p) ∧
    (∀ (text text' : Option Text) (p q : Preset), ((parse (.ofText? text)).on s).1 = .ok p →
      ((parse (.ofText? text')).on s').1 = .ok q → (p = q ↔ p.text = q.text)) := by
  have hback : ∀ {text : Option Text} {s : Session} {p : Preset},
      ((parse (.ofText? text)).on s).1 = .ok p → Preset.parse p.text = .ok p := fun h =>
    (isReadable_of_parse h).parse_text
  refine ⟨fun p => ⟨fun h => ⟨some p.text, ?_⟩, fun ⟨text, h⟩ => ?_⟩, fun text p h => ?_, ?_⟩
  · exact parse_text_eq_ok_iff.mpr (parse_text_eq_ok_iff.mp h)
  · exact parse_text_eq_ok_iff.mpr (hback h)
  · exact parse_text_eq_ok_iff.mpr (hback h)
  · intro text text' p q hp hq
    refine ⟨congrArg Preset.text, fun htext => ?_⟩
    have hpq := hback hp
    rw [htext, hback hq] at hpq
    exact (Except.ok.inj hpq).symm

/-- A preset whose quality goes without saying is read from a text in mixed case, and comes back
from its own text. -/
theorem parse_text_round_trip_of_normal :
    ((parse (.ofText? (some "AMD-av1"))).on (fresh ⟨[], [], []⟩ "")).1 =
        .ok (.predefined (some .av1) (some .amd) (some .normal)) ∧
      ((parse (.text (Preset.predefined (some .av1) (some .amd) (some .normal)).text)).on
          (fresh ⟨[], [], []⟩ "")).1 =
        .ok (.predefined (some .av1) (some .amd) (some .normal)) := by
  have hread : ((parse (.ofText? (some "AMD-av1"))).on (fresh ⟨[], [], []⟩ "")).1 =
      .ok (.predefined (some .av1) (some .amd) (some .normal)) := by
    rw [Value.ofText?, parse_text_eq_ok_iff]
    decide +kernel
  have hback := (parse_text_round_trip (fresh ⟨[], [], []⟩ "") (fresh ⟨[], [], []⟩ "")).2.1
  exact ⟨hread, hback _ _ hread⟩

end Session

end Transcode
