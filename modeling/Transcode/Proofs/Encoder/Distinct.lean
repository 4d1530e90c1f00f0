import Mathlib.Data.Finset.Image
import Transcode.Proofs.Preset.Language

/-!
# Presets that differ compile differently

Two texts that are read as presets of the catalogue compile to the same arguments exactly if they
have the same words: in whatever order and case, and with or without a word for the normal quality.

On the side of the texts, the words say what has to be named, and nothing else. On the side of the
arguments, the encoder is read back from its flag. It tells the codec and the accelerator, as no two
pairs in the catalogue share one. What then stands before it tells the quality.

## Main definitions

* `Preset.requestedWords` — the words that tell one text from another;
* `Preset.Named.needed` — what has to be named for a preset of the catalogue;
* `valueOf?` — the value behind a flag.

## Main results

* `Preset.mem_requestedWords_iff`, `Preset.requestedWords_eq_iff` — the words of a preset tell its
  parts;
* `Arguments.ofParts_inj` — so do its arguments;
* `Session.compile_eq_iff_requestedWords_eq` — both, in a session.
-/

namespace Transcode

namespace Preset

/-! ### What the words tell -/

/-- The words of a text in lower case, whatever their order, without that for `Quality.normal`. -/
def requestedWords (text : Text) : Finset String :=
  (loweredWords text).toFinset.erase Quality.normal.name

/-- What has to be `Named` for a preset of the catalogue. `Quality.normal` goes without saying. -/
def Named.needed (codec : Codec) (accelerator : Option Accelerator) (quality : Quality) : Named :=
  ⟨some codec, accelerator, if quality = .normal then none else some quality⟩

/-- Whatever else is named beside what is `needed`, it is `Quality.normal`. -/
theorem Named.mem_members_needed_iff {codec : Codec} {accelerator : Option Accelerator}
    {said : Option Quality} {m : Member} :
    m ∈ (needed codec accelerator (said.getD .normal)).members ↔
      m ≠ .quality .normal ∧ m ∈ (Named.mk (some codec) accelerator said).members := by
  cases m with
  | codec c => simp [needed, members]
  | accelerator a => simp [needed, members]
  | quality q =>
      rcases said with _ | q'
      · simp [needed, members]
      · cases q <;> cases q' <;> simp [needed, members]

/-- What is `needed` tells the parts. -/
theorem Named.needed_inj {codec codec' : Codec} {accelerator accelerator' : Option Accelerator}
    {quality quality' : Quality} :
    needed codec accelerator quality = needed codec' accelerator' quality' ↔
      codec = codec' ∧ accelerator = accelerator' ∧ quality = quality' := by
  simp only [needed, Named.mk.injEq, Option.some.injEq]
  refine and_congr_right fun _ => and_congr_right fun _ => ?_
  cases quality <;> cases quality' <;> simp

/-- The words that spell a preset are, but for `Quality.normal`, the names of what is `needed`. -/
theorem mem_requestedWords_iff {text : Text} {codec : Codec} {accelerator : Option Accelerator}
    {quality : Quality} (h : Spells (loweredWords text) codec accelerator quality) {word : String} :
    word ∈ requestedWords text ↔
      ∃ m ∈ (Named.needed codec accelerator quality).members, m.name = word := by
  obtain ⟨said, rfl, ms, hnames, hperm⟩ := spells_iff.mp h
  simp only [requestedWords, Finset.mem_erase, List.mem_toFinset, ← hnames, List.mem_map,
    Named.mem_members_needed_iff, hperm.mem_iff]
  constructor
  · rintro ⟨hnormal, m, hm, rfl⟩
    exact ⟨m, ⟨fun heq => hnormal (congrArg Member.name heq), hm⟩, rfl⟩
  · rintro ⟨m, ⟨hnormal, hm⟩, rfl⟩
    exact ⟨fun heq => hnormal (Member.name_injective heq), m, hm, rfl⟩

/-- **The words of a preset tell its parts.** -/
theorem requestedWords_eq_iff {text text' : Text} {codec codec' : Codec}
    {accelerator accelerator' : Option Accelerator} {quality quality' : Quality}
    (h : Spells (loweredWords text) codec accelerator quality)
    (h' : Spells (loweredWords text') codec' accelerator' quality') :
    requestedWords text = requestedWords text' ↔
      codec = codec' ∧ accelerator = accelerator' ∧ quality = quality' := by
  rw [← Named.needed_inj, Finset.ext_iff]
  simp only [mem_requestedWords_iff h, mem_requestedWords_iff h']
  constructor
  · intro hnames
    refine Named.eq_of_mem_members_iff fun m => ?_
    have hname (n : Member) : n.name = m.name ↔ n = m :=
      ⟨Member.name_injective, congrArg Member.name⟩
    simpa [hname] using hnames m.name
  · intro hneeded word
    rw [hneeded]

end Preset

/-! ### What the arguments tell -/

/-- The value behind a flag, among flags with their values. -/
def valueOf? (flag : Text) : List Text → Option Text
  | next :: value :: rest => if next = flag then some value else valueOf? flag rest
  | _ => none

/-- `videoEncoder` is not the same for two codecs with their accelerators in the catalogue. -/
theorem videoEncoder_inj {codec codec' : Codec} {accelerator accelerator' : Option Accelerator}
    (h : Preset.InCatalogue codec accelerator) (h' : Preset.InCatalogue codec' accelerator') :
    videoEncoder codec accelerator = videoEncoder codec' accelerator' ↔
      codec = codec' ∧ accelerator = accelerator' := by
  have hentries : ∀ e ∈ Catalog.entries, ∀ e' ∈ Catalog.entries,
      videoEncoder e.codec e.accelerator = videoEncoder e'.codec e'.accelerator →
        e.codec = e'.codec ∧ e.accelerator = e'.accelerator := by decide +kernel
  obtain ⟨e, he, rfl, rfl⟩ := h
  obtain ⟨e', he', rfl, rfl⟩ := h'
  refine ⟨hentries e he e' he', ?_⟩
  rintro ⟨hcodec, haccelerator⟩
  rw [hcodec, haccelerator]

/-- `qualityArguments` are not the same for two qualities of a codec with its accelerator in the
catalogue. -/
theorem qualityArguments_inj {codec : Codec} {accelerator : Option Accelerator}
    (h : Preset.InCatalogue codec accelerator) {quality quality' : Quality} :
    qualityArguments codec accelerator (some quality) =
      qualityArguments codec accelerator (some quality') ↔ quality = quality' := by
  have hentries : ∀ e ∈ Catalog.entries, ∀ q ∈ Quality.all, ∀ q' ∈ Quality.all,
      qualityArguments e.codec e.accelerator (some q) =
        qualityArguments e.codec e.accelerator (some q') → q = q' := by decide +kernel
  obtain ⟨e, he, rfl, rfl⟩ := h
  have hall (q : Quality) : q ∈ Quality.all := by cases q <;> decide
  exact ⟨hentries e he _ (hall _) _ (hall _), fun heq => by rw [heq]⟩

namespace Arguments

/-- `valueOf?` does not take the flag of a quality for that of the encoder. -/
theorem valueOf?_qualityArguments_append (codec : Codec) (accelerator : Option Accelerator)
    (quality : Option Quality) (rest : List Text) :
    valueOf? "-c:v" (qualityArguments codec accelerator quality ++ rest) =
      valueOf? "-c:v" rest := by
  rw [qualityArguments, qualityArgument?]
  split_ifs
  · cases quality.bind (appleQuality? codec) <;> rfl
  · cases quality.bind (rateFactor? codec) <;> rfl

/-- `valueOf?` reads the encoder back from the arguments behind the input. -/
theorem valueOf?_output_ofParts (codec : Codec) (accelerator : Option Accelerator)
    (quality : Option Quality) :
    valueOf? "-c:v" (ofParts codec accelerator quality).output =
      some (.ofString (videoEncoder codec accelerator)) := by
  rw [ofParts, List.append_assoc, valueOf?_qualityArguments_append]
  rfl

/-- **`Arguments.ofParts` of a preset of the catalogue tells its parts.** -/
theorem ofParts_inj {codec codec' : Codec} {accelerator accelerator' : Option Accelerator}
    {quality quality' : Quality} (h : Preset.InCatalogue codec accelerator)
    (h' : Preset.InCatalogue codec' accelerator') :
    ofParts codec accelerator (some quality) = ofParts codec' accelerator' (some quality') ↔
      codec = codec' ∧ accelerator = accelerator' ∧ quality = quality' := by
  constructor
  · intro heq
    have houtput := congrArg Arguments.output heq
    have hencoder := congrArg (valueOf? "-c:v") houtput
    simp only [valueOf?_output_ofParts, Option.some.injEq, Text.ofString_inj] at hencoder
    obtain ⟨rfl, rfl⟩ := (videoEncoder_inj h h').mp hencoder
    -- The encoder and the tag behind the quality are the same now.
    simp only [ofParts, List.append_cancel_right_eq] at houtput
    exact ⟨rfl, rfl, (qualityArguments_inj h).mp houtput⟩
  · rintro ⟨rfl, rfl, rfl⟩
    rfl

end Arguments

/-- Without the catalogue this fails: AV1 on NVIDIA's hardware would be encoded in software, as it
is on none. -/
example : Arguments.ofParts .av1 (some .nvidia) none = Arguments.ofParts .av1 none none := by rfl

namespace Session

/-- **Texts compile alike exactly if they have the same `requestedWords`.** Two texts that are read
as presets of the catalogue, in whatever sessions, both have arguments in any others. These are the
same exactly if the texts have the same words in lower case, but for that of `Quality.normal`. -/
theorem compile_eq_iff_requestedWords_eq {text text' : Text} {s s' : Session}
    {codec codec' : Option Codec} {accelerator accelerator' : Option Accelerator}
    {quality quality' : Option Quality}
    (h : ((parse (.text text)).on s).1 = .ok (.predefined codec accelerator quality))
    (h' : ((parse (.text text')).on s').1 = .ok (.predefined codec' accelerator' quality'))
    (r r' : Session) :
    ∃ a a', ((compile (.predefined codec accelerator quality)).on r).1 = .ok a ∧
      ((compile (.predefined codec' accelerator' quality')).on r').1 = .ok a' ∧
      (a = a' ↔ Preset.requestedWords text = Preset.requestedWords text') := by
  obtain ⟨c, q, rfl, rfl, hspells, hin⟩ := Preset.exists_spells_of_parse (parse_text_eq_ok_iff.mp h)
  obtain ⟨c', q', rfl, rfl, hspells', hin'⟩ :=
    Preset.exists_spells_of_parse (parse_text_eq_ok_iff.mp h')
  refine ⟨_, _, compile_eq_ok_iff.mpr rfl, compile_eq_ok_iff.mpr rfl, ?_⟩
  rw [Arguments.ofParts_inj hin hin', Preset.requestedWords_eq_iff hspells hspells']

/-- A preset in another order and case, and with a word for the normal quality, compiles like the
one without; and a preset of low quality does not. -/
theorem compile_eq_iff_requestedWords_eq_of_reordered :
    let s := fresh ⟨[], [], []⟩ ""
    let p : Preset := .predefined (some .h265) (some .apple) (some .normal)
    let low : Preset := .predefined (some .h265) (some .apple) (some .low)
    ((parse (.text "h265-apple")).on s).1 = .ok p ∧
      ((parse (.text "Normal-APPLE-h265")).on s).1 = .ok p ∧
      ((parse (.text "apple-low-h265")).on s).1 = .ok low ∧
      Preset.requestedWords "h265-apple" = Preset.requestedWords "Normal-APPLE-h265" ∧
      ∃ a b, ((compile p).on s).1 = .ok a ∧ ((compile low).on s).1 = .ok b ∧ a ≠ b := by
  intro s p low
  have hplain : ((parse (.text "h265-apple")).on s).1 = .ok p :=
    parse_text_eq_ok_iff.mpr (by decide +kernel)
  have hnormal : ((parse (.text "Normal-APPLE-h265")).on s).1 = .ok p :=
    parse_text_eq_ok_iff.mpr (by decide +kernel)
  have hlow : ((parse (.text "apple-low-h265")).on s).1 = .ok low :=
    parse_text_eq_ok_iff.mpr (by decide +kernel)
  obtain ⟨a, a', ha, ha', hsame⟩ := compile_eq_iff_requestedWords_eq hplain hnormal s s
  obtain rfl : a = a' := Except.ok.inj (ha.symm.trans ha')
  obtain ⟨b, c, hb, hc, hother⟩ := compile_eq_iff_requestedWords_eq hplain hlow s s
  refine ⟨hplain, hnormal, hlow, hsame.mp rfl, b, c, hb, hc, fun heq => ?_⟩
  exact absurd (hother.mp heq) (by decide +kernel)

end Session

end Transcode
