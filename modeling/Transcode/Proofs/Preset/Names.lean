import Transcode.Proofs.Preset.Language
import Transcode.Proofs.Text.LetterCase

/-!
# Names in any case

A member of an axis is found by its name in any case, where the case is that of ASCII letters only:
what is found is as long as the canonical name and agrees with it character by character. The
canonical names are in small ASCII letters and digits, and none of them has a `k`, so no other
letter of Unicode is taken for one of theirs.

So a text that is read as a preset of the catalogue holds nothing but ASCII letters, ASCII digits,
and the hyphens between its words.

## Main results

* `findNamed_eq_some_iff` — looking up a name among several;
* `Member.lower_eq_name_iff` — the texts that are found under a canonical name;
* `Preset.exists_spelledLike_of_parse` — the words of a text that is read as a preset of the
  catalogue;
* `Session.names_have_no_lookalikes` — looking up on each axis, and the texts that are read.
-/

namespace Transcode

open Text (IsDistinctive SpelledLike)

/-- `findNamed` finds the only one among some whose name it has in lower case. -/
theorem findNamed_eq_some_iff {α : Type} {members : List α} {nameOf : α → String}
    (hinj : ∀ a b, nameOf a = nameOf b → a = b) {name : String} {m : α} :
    findNamed members nameOf name = some m ↔ m ∈ members ∧ Text.lower name = nameOf m := by
  rw [findNamed]
  constructor
  · intro h
    have hname := List.find?_some h
    exact ⟨List.mem_of_find?_eq_some h, (eq_of_beq hname).symm⟩
  · rintro ⟨hmem, hname⟩
    have hsome : (members.find? fun member => nameOf member == Text.lower name).isSome = true :=
      List.find?_isSome.mpr ⟨m, hmem, beq_iff_eq.mpr hname.symm⟩
    obtain ⟨found, hfound⟩ := Option.isSome_iff_exists.mp hsome
    have hfoundName := List.find?_some hfound
    rw [hfound, hinj found m ((eq_of_beq hfoundName).trans hname)]

/-! ### Canonical names -/

namespace Member

/-- `IsDistinctive` holds of the characters of canonical names: they are small letters and digits of
ASCII, without a `k`. -/
theorem isDistinctive_of_mem_name (m : Member) : ∀ c ∈ m.name.toList, IsDistinctive c := by
  have hall : (m.name.toList.all fun c => decide (IsDistinctive c)) = true := by
    rcases m with c | a | q
    · cases c <;> decide
    · cases a <;> decide
    · cases q <;> decide
  simpa only [List.all_eq_true, decide_eq_true_eq] using hall

/-- They are letters and digits in either case. -/
theorem isAlphanum_of_mem_name (m : Member) :
    ∀ c ∈ m.name.toList, c.toLower.isAlphanum = true := by
  have hall : (m.name.toList.all fun c => c.toLower.isAlphanum) = true := by
    rcases m with c | a | q
    · cases c <;> decide
    · cases a <;> decide
    · cases q <;> decide
  simpa only [List.all_eq_true] using hall

/-- The texts that are found under a canonical name are those that are spelled like it. -/
theorem lower_eq_name_iff (m : Member) {name : String} :
    Text.lower name = m.name ↔ SpelledLike name m.name :=
  Text.lower_eq_iff m.isDistinctive_of_mem_name

/-- An axis lists its own members. -/
theorem mem_members_iff {m : Member} {axis : Axis} : m ∈ axis.members ↔ m.axis = axis := by
  constructor
  · intro h
    cases axis <;>
      · obtain ⟨_, -, rfl⟩ := List.mem_map.mp h
        rfl
  · rintro rfl
    exact Axis.mem_members m

end Member

/-- `Axis.find?` finds the member that the name is `SpelledLike`. -/
theorem Axis.find?_eq_some_iff {axis : Axis} {name : String} {m : Member} :
    axis.find? name = some m ↔ m.axis = axis ∧ SpelledLike name m.name := by
  rw [find?, findNamed_eq_some_iff fun _ _ => Member.name_injective, Member.mem_members_iff,
    m.lower_eq_name_iff]

/-- `findNamed` does the same for the type of the members of one axis, all of which are listed. -/
theorem findNamed_all_eq_some_iff {α : Type} {all : List α} {nameOf : α → String}
    (member : α → Member) (hmember : ∀ a b, member a = member b → a = b)
    (hname : ∀ a, (member a).name = nameOf a) (hall : ∀ a, a ∈ all) {name : String} {a : α} :
    findNamed all nameOf name = some a ↔ SpelledLike name (nameOf a) := by
  have hinj (a b : α) (h : nameOf a = nameOf b) : a = b := by
    rw [← hname, ← hname] at h
    exact hmember a b (Member.name_injective h)
  rw [findNamed_eq_some_iff hinj, and_iff_right (hall a), ← hname, (member a).lower_eq_name_iff]

theorem Codec.find?_eq_some_iff {name : String} {c : Codec} :
    Codec.find? name = some c ↔ SpelledLike name c.name :=
  findNamed_all_eq_some_iff .codec (fun _ _ => Member.codec.inj) (fun _ => rfl)
    fun c => by cases c <;> decide

theorem Accelerator.find?_eq_some_iff {name : String} {a : Accelerator} :
    Accelerator.find? name = some a ↔ SpelledLike name a.name :=
  findNamed_all_eq_some_iff .accelerator (fun _ _ => Member.accelerator.inj) (fun _ => rfl)
    fun a => by cases a <;> decide

theorem Quality.find?_eq_some_iff {name : String} {q : Quality} :
    Quality.find? name = some q ↔ SpelledLike name q.name :=
  findNamed_all_eq_some_iff .quality (fun _ _ => Member.quality.inj) (fun _ => rfl)
    fun q => by cases q <;> decide

/-! ### Texts of presets -/

namespace Preset

variable {text : Text} {codec : Option Codec} {accelerator : Option Accelerator}
  {quality : Option Quality}

/-- **Each word of a text that is read as a preset of the catalogue is `SpelledLike` a canonical
name.** -/
theorem exists_spelledLike_of_parse (h : parse text = .ok (.predefined codec accelerator quality)) :
    ∀ piece ∈ pieces text, ∃ m : Member, SpelledLike piece.plain m.name := by
  intro piece hpiece
  obtain ⟨_, _, -, -, hspells, -⟩ := exists_spells_of_parse h
  obtain ⟨-, -, ms, hnames, -⟩ := spells_iff.mp hspells
  have hlowered : Text.lower piece.plain ∈ loweredWords text := List.mem_map_of_mem hpiece
  rw [← hnames] at hlowered
  obtain ⟨m, -, hm⟩ := List.mem_map.mp hlowered
  exact ⟨m, m.lower_eq_name_iff.mp hm.symm⟩

/-- So the text is made of ASCII letters, ASCII digits and hyphens. -/
theorem isAlphanum_of_parse (h : parse text = .ok (.predefined codec accelerator quality)) :
    ∀ x ∈ text, ∃ c : Char, x = .char c ∧ (c.isAlphanum = true ∨ c = '-') := by
  intro x hx
  by_cases hhyphen : x = .char '-'
  · exact ⟨'-', hhyphen, .inr rfl⟩
  · obtain ⟨piece, hpiece, hmem⟩ := (Text.mem_iff_exists_mem_splitAt hhyphen).mp hx
    have hword := (isWords_of_parse_predefined h piece hpiece).2 x hmem
    obtain ⟨m, hspelled⟩ := exists_spelledLike_of_parse h piece hpiece
    cases x with
    | half n => exact absurd hword Bool.false_ne_true
    | char c =>
        refine ⟨c, rfl, .inl (hspelled.isAlphanum m.isAlphanum_of_mem_name c ?_)⟩
        rw [Text.plain, String.toList_ofList]
        exact List.mem_map_of_mem hmem

end Preset

namespace Session

/-- **No look-alike is taken for a name.** On each axis, `Axis.find?` finds the member whose
canonical name is as long and agrees with the name character by character, up to the case of ASCII
letters. So a text that is read as a preset of the catalogue, in whatever session, is made of ASCII
letters, ASCII digits and hyphens. -/
theorem names_have_no_lookalikes :
    (∀ (axis : Axis) (name : String) (m : Member),
      axis.find? name = some m ↔ m.axis = axis ∧ SpelledLike name m.name) ∧
    (∀ (name : String) (c : Codec), Codec.find? name = some c ↔ SpelledLike name c.name) ∧
    (∀ (name : String) (a : Accelerator),
      Accelerator.find? name = some a ↔ SpelledLike name a.name) ∧
    (∀ (name : String) (q : Quality), Quality.find? name = some q ↔ SpelledLike name q.name) ∧
    ∀ (text : Text) (s : Session) codec accelerator quality,
      ((parse (.text text)).on s).1 = .ok (.predefined codec accelerator quality) →
        ∀ x ∈ text, ∃ c : Char, x = .char c ∧ (c.isAlphanum = true ∨ c = '-') := by
  refine ⟨fun _ _ _ => Axis.find?_eq_some_iff, fun _ _ => Codec.find?_eq_some_iff,
    fun _ _ => Accelerator.find?_eq_some_iff, fun _ _ => Quality.find?_eq_some_iff, ?_⟩
  intro text s codec accelerator quality h
  exact Preset.isAlphanum_of_parse (parse_text_eq_ok_iff.mp h)

/-- A name in mixed case is found, and one with a capital I with a dot is not, though its lower case
looks the same; and a text in mixed case is read. -/
theorem names_have_no_lookalikes_of_dotted :
    Accelerator.find? "nVIDia" = some .nvidia ∧ Accelerator.find? "NV\u0130DIA" ≠ some .nvidia ∧
      ((parse (.text "H265-nVIDia")).on (fresh ⟨[], [], []⟩ "")).1 =
        .ok (.predefined (some .h265) (some .nvidia) (some .normal)) ∧
      ∀ x ∈ Text.ofString "H265-nVIDia", ∃ c : Char, x = .char c ∧
        (c.isAlphanum = true ∨ c = '-') := by
  obtain ⟨-, -, hfind, -, htexts⟩ := names_have_no_lookalikes
  have hspelled : SpelledLike "nVIDia" "nvidia" := by
    simp [SpelledLike, Text.SameLetter]
  have hdotted : ¬SpelledLike "NV\u0130DIA" "nvidia" := by
    simp [SpelledLike, Text.SameLetter]
  have hread : ((parse (.text "H265-nVIDia")).on (fresh ⟨[], [], []⟩ "")).1 =
      .ok (.predefined (some .h265) (some .nvidia) (some .normal)) := by
    rw [parse_text_eq_ok_iff]
    decide +kernel
  exact ⟨(hfind _ _).mpr hspelled, mt (hfind _ _).mp hdotted, hread, htexts _ _ _ _ _ hread⟩

end Session

end Transcode
