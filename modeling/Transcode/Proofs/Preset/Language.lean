import Transcode.Proofs.Preset.Words
import Transcode.Proofs.Session.Presets

/-!
# The language of preset texts

Every text has one of three outcomes. If some piece between its hyphens is no word, it is a custom
preset as it stands. If all pieces are words, and they spell out a codec, perhaps an accelerator
that goes with it, and perhaps a quality, in any order and case, it is that preset of the catalogue.
In every other case it is an error.

The statement is about `Session.parse`, so it holds whatever the session logs on the way.

## Main definitions

* `Preset.pieces`, `Preset.IsWords`, `Preset.loweredWords` — the text cut at its hyphens;
* `Preset.Spells` — the words of a preset, in whatever order;
* `Preset.InCatalogue` — a codec that goes with an accelerator, or with none.

## Main results

* `Preset.parse_eq_predefined_iff` — the texts of a preset of the catalogue;
* `Session.parse_outcome` — the outcome of every text.
-/

namespace Transcode

/-- Letters, numbers and the low line. A `Sign.half` is none of them. -/
def Sign.isWord : Sign → Bool
  | .char c => Text.isWord c
  | .half _ => false

namespace Preset

/-! ### The text cut at its hyphens -/

/-- The pieces of a text between its hyphens. -/
def pieces (text : Text) : List Text :=
  Text.splitAt (.char '-') text

/-- Every one of the `pieces` is a word: it is not empty, and all its signs are word characters. -/
def IsWords (text : Text) : Prop :=
  ∀ piece ∈ pieces text, piece ≠ [] ∧ ∀ s ∈ piece, s.isWord = true

instance (text : Text) : Decidable (IsWords text) :=
  inferInstanceAs (Decidable (∀ piece ∈ pieces text, piece ≠ [] ∧ ∀ s ∈ piece, s.isWord = true))

/-- The `pieces` of a text in lower case. -/
def loweredWords (text : Text) : List String :=
  (pieces text).map fun piece => Text.lower piece.plain

/-- The pieces of a string are those of its characters. -/
theorem pieces_ofString (s : String) :
    pieces (Text.ofString s) = (Text.splitAt '-' s.toList).map (List.map Sign.char) :=
  Text.splitAt_map (fun _ _ h => Sign.char.inj h) '-' s.toList

/-- The pieces of a string are its words. -/
theorem loweredWords_ofString (s : String) :
    loweredWords (Text.ofString s) = (words s).map Text.lower := by
  have hplain : ∀ cs : List Char, Text.plain (cs.map Sign.char) = String.ofList cs := fun cs => by
    rw [← Text.plain_ofString (String.ofList cs), Text.ofString, String.toList_ofList]
  rw [loweredWords, pieces_ofString, words, List.map_map, List.map_map]
  exact List.map_congr_left fun cs _ => congrArg Text.lower (hplain cs)

/-- `IsWords` holds of a string exactly if `isTokenForm` does. -/
theorem isWords_ofString_iff (s : String) :
    IsWords (Text.ofString s) ↔ isTokenForm s.toList = true := by
  rw [isTokenForm_iff, IsWords, pieces_ofString, List.forall_mem_map]
  refine forall_congr' fun cs => imp_congr_right fun _ => and_congr ?_ ?_
  · rw [Ne, List.map_eq_nil_iff]
  · rw [List.forall_mem_map]
    rfl

/-- Where `IsWords` does not hold, a piece is empty, or holds a sign that belongs to no word. -/
theorem not_isWords_iff {text : Text} :
    ¬ IsWords text ↔ ∃ piece ∈ pieces text, piece = [] ∨ ∃ x ∈ piece, x.isWord = false := by
  simp only [IsWords, not_forall, exists_prop, not_and_or, not_not, Bool.not_eq_true, ne_eq]

/-- `IsWords` holds of strings only. -/
theorem exists_eq_ofString_of_isWords {text : Text} (h : IsWords text) :
    ∃ s : String, text = Text.ofString s := by
  refine Text.HasNoHalf.exists_eq_ofString fun x hx => ?_
  by_cases hhyphen : x = .char '-'
  · rw [hhyphen]
    rfl
  · obtain ⟨piece, hpiece, hmem⟩ := (Text.mem_iff_exists_mem_splitAt hhyphen).mp hx
    have hword := (h piece hpiece).2 x hmem
    cases x with
    | char c => rfl
    | half n => exact absurd hword Bool.false_ne_true

/-! ### What the words ask for -/

/-- Words that name, in whatever order, the codec, the accelerator unless there is none, and the
quality. `Quality.normal` may go without saying. -/
def Spells (words : List String) (codec : Codec) (accelerator : Option Accelerator)
    (quality : Quality) : Prop :=
  ∃ said : Option Quality,
    words.Perm (codec.name :: (accelerator.map Accelerator.name).toList ++
      (said.map Quality.name).toList) ∧
    (said = some quality ∨ said = none ∧ quality = .normal)

/-- `Spells` does not look at the order of the words. -/
theorem Spells.of_perm {words words' : List String} {codec : Codec}
    {accelerator : Option Accelerator} {quality : Quality}
    (h : Spells words codec accelerator quality) (hperm : words.Perm words') :
    Spells words' codec accelerator quality := by
  obtain ⟨said, hsaid, hquality⟩ := h
  exact ⟨said, hperm.symm.trans hsaid, hquality⟩

/-- The catalogue combines the codec with the accelerator. -/
def InCatalogue (codec : Codec) (accelerator : Option Accelerator) : Prop :=
  ∃ e ∈ Catalog.entries, e.codec = codec ∧ e.accelerator = accelerator

instance (codec : Codec) (accelerator : Option Accelerator) :
    Decidable (InCatalogue codec accelerator) :=
  inferInstanceAs (Decidable (∃ e ∈ Catalog.entries, e.codec = codec ∧ e.accelerator = accelerator))

/-- Whether a quality is named makes no difference to what is in the catalogue. -/
theorem supports_iff (codec : Codec) (accelerator : Option Accelerator) (hasQuality : Bool) :
    Catalog.supports codec accelerator hasQuality = true ↔ InCatalogue codec accelerator := by
  rcases accelerator with _ | accelerator
  · cases codec <;> cases hasQuality <;> decide
  · cases codec <;> cases accelerator <;> cases hasQuality <;> decide

/-! ### Texts of words -/

/-- The names of `Named.members`, codec first. -/
theorem Named.map_name_members (codec : Codec) (accelerator : Option Accelerator)
    (said : Option Quality) :
    (Named.mk (some codec) accelerator said).members.map Member.name =
      codec.name :: (accelerator.map Accelerator.name).toList ++
        (said.map Quality.name).toList := by
  cases accelerator <;> cases said <;> rfl

/-- `Named.preset` is one for a codec that goes with the accelerator. A quality that has not been
named is `Quality.normal`. -/
theorem Named.preset_eq_ok_iff {n : Named} {p : Preset} :
    n.preset = .ok p ↔
      ∃ codec, n.codec = some codec ∧ InCatalogue codec n.accelerator ∧
        p = .predefined (some codec) n.accelerator (some (n.quality.getD .normal)) := by
  cases hn : n.codec with
  | none => simp [preset, hn]
  | some codec =>
      by_cases hsupports : Catalog.supports codec n.accelerator n.quality.isSome = true
      · have hin := (supports_iff _ _ _).mp hsupports
        simp [preset, hn, hsupports, hin, eq_comm]
      · have hout := mt (supports_iff _ _ _).mpr hsupports
        simp [preset, hn, hsupports, hout]

/-- `Spells` holds of words once `addWords` has read them all, in whatever order. -/
theorem spells_iff {words : List String} {codec : Codec} {accelerator : Option Accelerator}
    {quality : Quality} :
    Spells words codec accelerator quality ↔
      ∃ said : Option Quality, said.getD .normal = quality ∧
        ∃ ms : List Member, ms.map Member.name = words ∧
          (Named.mk (some codec) accelerator said).members.Perm ms := by
  refine exists_congr fun said => ?_
  have hsaid : said.getD .normal = quality ↔
      said = some quality ∨ said = none ∧ quality = .normal := by
    cases said <;> simp [eq_comm]
  rw [hsaid, and_comm]
  refine and_congr_right fun _ => ?_
  rw [← Named.map_name_members]
  constructor
  · intro hperm
    rw [← congrFun₂ (List.eq_map_comp_perm Member.name)] at hperm
    obtain ⟨ms, hwords, hms⟩ := hperm
    exact ⟨ms, hwords.symm, hms.symm⟩
  · rintro ⟨ms, rfl, hperm⟩
    exact (hperm.map _).symm

/-- **The texts of a preset of the catalogue**, among those made of words. -/
theorem ofTokenForm_eq_ok_iff {s : String} {p : Preset} :
    ofTokenForm s = .ok p ↔
      ∃ codec accelerator quality, p = .predefined (some codec) accelerator (some quality) ∧
        Spells (loweredWords (Text.ofString s)) codec accelerator quality ∧
        InCatalogue codec accelerator := by
  rw [loweredWords_ofString]
  constructor
  · intro h
    cases hread : Named.addWords s {} (words s) with
    | error e => simp [ofTokenForm, hread] at h
    | ok named =>
        simp only [ofTokenForm, hread] at h
        obtain ⟨ms, hnames, hperm⟩ := Named.addWords_eq_ok_iff.mp hread
        obtain ⟨codec, hcodec, hin, rfl⟩ := Named.preset_eq_ok_iff.mp h
        refine ⟨codec, named.accelerator, _, rfl, ?_, hin⟩
        refine spells_iff.mpr ⟨named.quality, rfl, ms, hnames, ?_⟩
        rw [← hcodec]
        simpa [Named.members] using hperm
  · rintro ⟨codec, accelerator, quality, rfl, hspells, hin⟩
    obtain ⟨said, rfl, ms, hnames, hperm⟩ := spells_iff.mp hspells
    have hread : Named.addWords s {} (words s) = .ok ⟨some codec, accelerator, said⟩ :=
      Named.addWords_eq_ok_iff.mpr ⟨ms, hnames, by simpa [Named.members] using hperm⟩
    simp only [ofTokenForm, hread]
    exact Named.preset_eq_ok_iff.mpr ⟨codec, rfl, hin, rfl⟩

/-! ### Every text -/

/-- `parse` takes a text without `IsWords` for a custom preset as it stands. -/
theorem parse_of_not_isWords {text : Text} (h : ¬ IsWords text) :
    parse text = .ok (.custom (some text)) := by
  rw [parse]
  cases hs : text.string? with
  | none => rfl
  | some s =>
      rw [Text.string?_eq_some_iff.mp hs, isWords_ofString_iff] at h
      exact if_neg h

/-- `parse` is `ofTokenForm` for a text with `IsWords`. -/
theorem parse_eq_ofTokenForm {s : String} (h : IsWords (Text.ofString s)) :
    parse (Text.ofString s) = ofTokenForm s := by
  rw [parse, Text.string?_ofString]
  exact if_pos ((isWords_ofString_iff s).mp h)

/-- What `parse` makes of a text with `IsWords`. -/
theorem parse_eq_ok_iff_of_isWords {text : Text} (h : IsWords text) {p : Preset} :
    parse text = .ok p ↔
      ∃ codec accelerator quality, p = .predefined (some codec) accelerator (some quality) ∧
        Spells (loweredWords text) codec accelerator quality ∧
        InCatalogue codec accelerator := by
  obtain ⟨s, rfl⟩ := exists_eq_ofString_of_isWords h
  rw [parse_eq_ofTokenForm h]
  exact ofTokenForm_eq_ok_iff

/-- `parse` takes a text for a custom preset exactly if it is not made of words. -/
theorem parse_eq_custom_iff {text : Text} {arguments : Option Text} :
    parse text = .ok (.custom arguments) ↔ arguments = some text ∧ ¬ IsWords text := by
  constructor
  · intro h
    by_cases hwords : IsWords text
    · obtain ⟨codec, accelerator, quality, hp, -⟩ := (parse_eq_ok_iff_of_isWords hwords).mp h
      cases hp
    · rw [parse_of_not_isWords hwords] at h
      injection h with h
      injection h with h
      exact ⟨h.symm, hwords⟩
  · rintro ⟨rfl, hwords⟩
    exact parse_of_not_isWords hwords

/-- `parse` takes a text for a preset of the catalogue exactly if it is made of words with `Spells`,
and the preset is `InCatalogue`. -/
theorem parse_eq_predefined_iff {text : Text} {codec : Codec} {accelerator : Option Accelerator}
    {quality : Quality} :
    parse text = .ok (.predefined (some codec) accelerator (some quality)) ↔
      IsWords text ∧ Spells (loweredWords text) codec accelerator quality ∧
        InCatalogue codec accelerator := by
  by_cases hwords : IsWords text
  · rw [parse_eq_ok_iff_of_isWords hwords]
    constructor
    · rintro ⟨_, _, _, ⟨⟩, hspells, hin⟩
      exact ⟨hwords, hspells, hin⟩
    · rintro ⟨-, hspells, hin⟩
      exact ⟨codec, accelerator, quality, rfl, hspells, hin⟩
  · rw [parse_of_not_isWords hwords]
    simp [hwords]

/-- `IsWords` holds of a text that is read as a preset of the catalogue. -/
theorem isWords_of_parse_predefined {text : Text} {codec : Option Codec}
    {accelerator : Option Accelerator} {quality : Option Quality}
    (h : parse text = .ok (.predefined codec accelerator quality)) : IsWords text := by
  by_contra hwords
  rw [parse_of_not_isWords hwords] at h
  cases h

/-- Its words spell the preset out, with a codec and a quality. -/
theorem exists_spells_of_parse {text : Text} {codec : Option Codec}
    {accelerator : Option Accelerator} {quality : Option Quality}
    (h : parse text = .ok (.predefined codec accelerator quality)) :
    ∃ c q, codec = some c ∧ quality = some q ∧ Spells (loweredWords text) c accelerator q ∧
      InCatalogue c accelerator := by
  obtain ⟨c, a, q, heq, hspells, hin⟩ :=
    (parse_eq_ok_iff_of_isWords (isWords_of_parse_predefined h)).mp h
  obtain ⟨rfl, rfl, rfl⟩ := predefined.inj heq
  exact ⟨c, q, rfl, rfl, hspells, hin⟩

/-- `parse` refuses a text exactly if it is made of words that spell out nothing in the catalogue.
-/
theorem exists_parse_eq_error_iff {text : Text} :
    (∃ e, parse text = .error e) ↔
      IsWords text ∧ ∀ codec accelerator quality,
        ¬ (Spells (loweredWords text) codec accelerator quality ∧
          InCatalogue codec accelerator) := by
  by_cases hwords : IsWords text
  · cases hparse : parse text with
    | ok p =>
        obtain ⟨codec, accelerator, quality, -, hspells, hin⟩ :=
          (parse_eq_ok_iff_of_isWords hwords).mp hparse
        simp only [reduceCtorEq, exists_false, false_iff, not_and, not_forall, not_not]
        exact fun _ => ⟨codec, accelerator, quality, hspells, hin⟩
    | error e =>
        refine ⟨fun _ => ⟨hwords, fun codec accelerator quality hspelled => ?_⟩,
          fun _ => ⟨e, rfl⟩⟩
        have hok := parse_eq_predefined_iff.mpr ⟨hwords, hspelled⟩
        rw [hparse] at hok
        cases hok
  · rw [parse_of_not_isWords hwords]
    simp [hwords]

end Preset

namespace Session

/-- **The outcome of every text**, in every session: a custom preset as it stands if some piece of
it is empty or holds a sign that belongs to no word; a preset of the catalogue if its words spell
one out; and otherwise an error about presets. So two texts of words that differ in the order and
the case of their words are read as the same preset, or both refused. -/
theorem parse_outcome (text : Text) (s : Session) :
    (((parse (.text text)).on s).1 = .ok (.custom (some text)) ↔
      ∃ piece ∈ Preset.pieces text, piece = [] ∨ ∃ x ∈ piece, x.isWord = false) ∧
    (∀ codec accelerator quality,
      ((parse (.text text)).on s).1 =
          .ok (.predefined (some codec) accelerator (some quality)) ↔
        Preset.IsWords text ∧
          Preset.Spells (Preset.loweredWords text) codec accelerator quality ∧
          Preset.InCatalogue codec accelerator) ∧
    ((∃ e, ((parse (.text text)).on s).1 = .error (.preset e)) ↔
      Preset.IsWords text ∧ ∀ codec accelerator quality,
        ¬ (Preset.Spells (Preset.loweredWords text) codec accelerator quality ∧
          Preset.InCatalogue codec accelerator)) ∧
    (∀ (other : Text) (s' : Session), Preset.IsWords text → Preset.IsWords other →
      (Preset.loweredWords text).Perm (Preset.loweredWords other) →
        (∃ p, ((parse (.text text)).on s).1 = .ok p ∧
          ((parse (.text other)).on s').1 = .ok p) ∨
        ∃ e e', ((parse (.text text)).on s).1 = .error (.preset e) ∧
          ((parse (.text other)).on s').1 = .error (.preset e')) := by
  simp only [parse_text_eq_ok_iff, parse_text_eq_error_iff]
  refine ⟨?_, fun _ _ _ => Preset.parse_eq_predefined_iff, Preset.exists_parse_eq_error_iff, ?_⟩
  · rw [Preset.parse_eq_custom_iff, Preset.not_isWords_iff]
    exact and_iff_right rfl
  · intro other _ hwords hwords' hperm
    cases hparse : Preset.parse text with
    | ok p =>
        obtain ⟨codec, accelerator, quality, rfl, hspells, hin⟩ :=
          (Preset.parse_eq_ok_iff_of_isWords hwords).mp hparse
        refine Or.inl ⟨_, rfl, Preset.parse_eq_predefined_iff.mpr ⟨hwords', ?_, hin⟩⟩
        exact hspells.of_perm hperm
    | error e =>
        obtain ⟨-, hnone⟩ := Preset.exists_parse_eq_error_iff.mp ⟨e, hparse⟩
        obtain ⟨e', hparse'⟩ := Preset.exists_parse_eq_error_iff.mpr ⟨hwords', fun c a q h =>
          hnone c a q ⟨h.1.of_perm hperm.symm, h.2⟩⟩
        exact Or.inr ⟨e, e', rfl, hparse'⟩

/-- The outcome of a preset whose words stand in another order and in mixed case. -/
theorem parse_outcome_of_reordered :
    Preset.IsWords "low-H264-Nvidia" ∧ Preset.IsWords "nvidia-h264-LOW" ∧
      (Preset.loweredWords "low-H264-Nvidia").Perm (Preset.loweredWords "nvidia-h264-LOW") ∧
      ∃ p, ((parse (.text "low-H264-Nvidia")).on (fresh ⟨[], [], []⟩ "")).1 = .ok p ∧
        ((parse (.text "nvidia-h264-LOW")).on (fresh ⟨[], [], []⟩ "")).1 = .ok p := by
  have hwords : Preset.IsWords "low-H264-Nvidia" := by decide +kernel
  have hwords' : Preset.IsWords "nvidia-h264-LOW" := by decide +kernel
  have hperm : (Preset.loweredWords "low-H264-Nvidia").Perm
      (Preset.loweredWords "nvidia-h264-LOW") := by decide +kernel
  have h := parse_outcome "low-H264-Nvidia" (fresh ⟨[], [], []⟩ "")
  have hread := (h.2.1 .h264 (some .nvidia) .low).mpr
    ⟨hwords, ⟨some .low, by decide +kernel, Or.inl rfl⟩, by decide⟩
  refine ⟨hwords, hwords', hperm, ?_⟩
  rcases h.2.2.2 "nvidia-h264-LOW" (fresh ⟨[], [], []⟩ "") hwords hwords' hperm with
    hsame | ⟨e, -, herror, -⟩
  · exact hsame
  · rw [hread] at herror
    cases herror

end Session

end Transcode
