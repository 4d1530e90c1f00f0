import Mathlib.Data.List.TakeWhile
import Transcode.Proofs.CommandLine.Independence
import Transcode.Proofs.CommandLine.Printed
import Transcode.Proofs.Preset.Language

/-!
# Switches whose value follows

The value of a switch may also be the argument behind it, as long as that one is an operand. An
argument that begins with a hyphen is one only if it cannot be meant for a switch, and is a negative
number or holds a blank. So a preset behind its short switch is the same as one glued to its long
switch for some texts only: any other text is refused behind the switch, though it is a preset like
any other where it is glued.

## Main definitions

* `Argument.beginsSwitch` — a text begins like a switch;
* `Argument.isValue` — a text can be the value of the switch before it.

## Main results

* `classify_eq_operand_iff` — these texts are the operands;
* `parse_pair_of_operand`, `exists_parse_pair_eq_misuse` — a switch and an argument behind it;
* `run_separate_iff_glued` — a preset behind its switch, and glued to it.
-/

namespace Transcode

/-! ### Up to a separator -/

namespace Text

variable {α : Type} [DecidableEq α] {separator : α}

/-- What is before the first separator of a text is all up to it. -/
theorem takeWhile_of_cutAt? {text before after : List α}
    (h : cutAt? separator text = some (before, after)) :
    text.takeWhile (· != separator) = before := by
  induction text generalizing before with
  | nil => cases h
  | cons c rest ih =>
      rw [cutAt?] at h
      split at h
      next hc =>
        cases h
        simp [hc]
      next hc =>
        obtain ⟨⟨front, back⟩, hcut, heq⟩ := Option.map_eq_some_iff.mp h
        cases heq
        simp [hc, ih hcut]

/-- A text without separators is all before one. -/
theorem takeWhile_of_cutAt?_eq_none {text : List α} (h : cutAt? separator text = none) :
    text.takeWhile (· != separator) = text := by
  induction text with
  | nil => rfl
  | cons c rest ih =>
      rw [cutAt?] at h
      split at h
      next => cases h
      next hc => simp [hc, ih (Option.map_eq_none_iff.mp h)]

end Text

namespace CommandLine

namespace Argument

/-! ### What can be a value -/

/-- The text begins like a switch. With two hyphens, what is before its first equals sign is the
beginning of a spelling in `Switch.table`; with one, the hyphen and the character behind it are a
spelling. -/
def beginsSwitch : List Char → Bool
  | '-' :: '-' :: rest =>
    Switch.table.any fun entry =>
      (('-' :: '-' :: rest).takeWhile (· != '=')).isPrefixOf entry.1.toList
  | '-' :: c :: _ => Switch.table.any fun entry => entry.1.toList == ['-', c]
  | _ => false

/-- The text can be the value of the switch before it. Behind a hyphen it has to be a number, or to
hold a blank, and must not be one that `beginsSwitch`. -/
def isValue : List Char → Bool
  | '-' :: c :: rest =>
    !beginsSwitch ('-' :: c :: rest) &&
      (isNegativeNumber ('-' :: c :: rest) || ('-' :: c :: rest).contains ' ')
  | _ => true

/-- With one hyphen, the character behind it tells. -/
theorem beginsSwitch_of_ne {c : Char} (hc : c ≠ '-') (rest : List Char) :
    beginsSwitch ('-' :: c :: rest) =
      Switch.table.any fun entry => entry.1.toList == ['-', c] := by
  rw [beginsSwitch]
  simpa using hc

/-- A spelling that `find?` finds is one of its switch. -/
theorem mem_table_of_find? {spelling : String} {switch : Switch}
    (h : Switch.find? spelling = some switch) : (spelling, switch) ∈ Switch.table := by
  have hmem := List.mem_of_find?_eq_some h
  have hspelling := List.find?_some h
  rw [List.contains_iff_mem] at hspelling
  exact List.mem_flatMap.mpr ⟨switch, hmem, List.mem_map.mpr ⟨spelling, hspelling, rfl⟩⟩

/-- What is `spelledOut?`, alone or before an equals sign, is all that is before one. -/
theorem exists_find?_of_spelledOut? {text : List Char} {found : Argument}
    (h : spelledOut? text = some found) :
    ∃ switch isShort glued, found = .known switch isShort glued ∧
      Switch.find? (String.ofList (text.takeWhile (· != '='))) = some switch := by
  rw [spelledOut?] at h
  split at h
  next switch hfind =>
    obtain rfl := Option.some.inj h
    have hnot : '=' ∉ text := by
      intro hmem
      rw [Switch.find?_eq_none (by rwa [String.toList_ofList])] at hfind
      cases hfind
    have hall : text.takeWhile (· != '=') = text := by
      rw [List.takeWhile_eq_self_iff]
      rintro c hc
      simp only [bne_iff_ne]
      rintro rfl
      exact hnot hc
    exact ⟨switch, _, _, rfl, by rw [hall, hfind]⟩
  next =>
    split at h
    next before after hcut =>
      obtain ⟨switch, hfind, rfl⟩ := Option.map_eq_some_iff.mp h
      exact ⟨switch, _, _, rfl, by rw [Text.takeWhile_of_cutAt? hcut, hfind]⟩
    next => cases h

/-- What is spelled out is one that `beginsSwitch`. A spelling with one hyphen is no longer than two
characters, so it is all told by the character behind the hyphen. -/
theorem beginsSwitch_of_find? {c : Char} {rest : List Char} {switch : Switch}
    (h : Switch.find? (String.ofList (('-' :: c :: rest).takeWhile (· != '='))) = some switch) :
    beginsSwitch ('-' :: c :: rest) = true := by
  have hmem := mem_table_of_find? h
  have hlength : ∀ entry ∈ Switch.table,
      entry.1.toList.length = 2 ∨ ['-', '-'].isPrefixOf entry.1.toList = true := by
    decide
  by_cases hc : c = '-'
  · subst hc
    rw [beginsSwitch, List.any_eq_true]
    exact ⟨_, hmem, by simp⟩
  · have hspelling := hlength _ hmem
    rw [String.toList_ofList] at hspelling
    have heq : c ≠ '=' := by
      rintro rfl
      simp at hspelling
    have hnil : rest.takeWhile (· != '=') = [] := by simpa [heq, Ne.symm hc] using hspelling
    rw [beginsSwitch_of_ne hc, List.any_eq_true]
    exact ⟨_, hmem, by simp [heq, hnil]⟩

/-- `candidates` are the switches that tell whether a text `beginsSwitch`. -/
theorem candidates_eq_map (c : Char) (rest : List Char) :
    ∃ (p : String × Switch → Bool) (glued : Option (List Char)),
      candidates ('-' :: c :: rest) =
        ((Switch.table.filter p).map fun entry => (entry.1, ofSpelling entry.1 entry.2 glued)) ∧
      beginsSwitch ('-' :: c :: rest) = Switch.table.any p := by
  by_cases hc : c = '-'
  · subst hc
    rw [candidates, beginsSwitch]
    cases hcut : Text.cutAt? '=' ('-' :: '-' :: rest) with
    | none =>
        rw [Text.takeWhile_of_cutAt?_eq_none hcut]
        exact ⟨_, none, rfl, rfl⟩
    | some cut =>
        rw [Text.takeWhile_of_cutAt? hcut]
        exact ⟨_, some cut.2, rfl, rfl⟩
  · rw [beginsSwitch_of_ne hc, candidates]
    · exact ⟨_, some rest, rfl, rfl⟩
    · simpa using hc

/-- `classify` takes an argument without a hyphen and another character at its beginning for an
operand. -/
theorem classify_of_not_hyphen {argument : String}
    (h : ∀ c rest, argument.toList ≠ '-' :: c :: rest) :
    classify argument = .ok .operand ∧ isValue argument.toList = true := by
  constructor
  · rw [classify]
    split
    next c rest htext => exact absurd htext (h c rest)
    next => rfl
  · unfold isValue
    split
    next c rest htext => exact absurd htext (h c rest)
    next => rfl

/-- **`classify` takes an argument for an operand exactly if it can be a value.** Behind a hyphen,
what `beginsSwitch` is taken for a switch, or for several; and of the rest, only numbers and what
holds a blank are taken for no switch. -/
theorem classify_eq_operand_iff {argument : String} (h : argument ≠ "--") :
    classify argument = .ok .operand ↔ isValue argument.toList = true := by
  by_cases hform : ∃ c rest, argument.toList = '-' :: c :: rest
  · obtain ⟨c, rest, htext⟩ := hform
    obtain ⟨p, glued, hcandidates, hbegins⟩ := candidates_eq_map c rest
    rw [classify, htext, if_neg h, isValue]
    cases hspelled : spelledOut? ('-' :: c :: rest) with
    | some found =>
        obtain ⟨switch, isShort, glued, rfl, hfind⟩ := exists_find?_of_spelledOut? hspelled
        simp [beginsSwitch_of_find? hfind]
    | none =>
        rw [hcandidates, hbegins]
        cases hfilter : Switch.table.filter p with
        | nil =>
            have hnone : Switch.table.any p = false :=
              List.any_eq_false.mpr (List.filter_eq_nil_iff.mp hfilter)
            rw [hnone]
            simp only [List.map_nil]
            split <;> simp_all
        | cons entry more =>
            have hentry := List.mem_filter.mp (hfilter ▸ List.mem_cons_self)
            have hsome : Switch.table.any p = true :=
              List.any_eq_true.mpr ⟨entry, hentry.1, hentry.2⟩
            rw [hsome]
            cases more <;> simp [ofSpelling]
  · push Not at hform
    obtain ⟨hclassify, hvalue⟩ := classify_of_not_hyphen hform
    exact iff_of_true hclassify hvalue

end Argument

/-! ### A switch and an argument behind it -/

namespace Options

variable {spelling value : String} {switch : Switch} {isShort : Bool}

/-- `parse` takes an operand behind a switch that `takesValue` for that value, as if it were glued
to the switch. -/
theorem parse_pair_of_operand
    (hspelling : Argument.classify spelling = .ok (.known switch isShort none))
    (htakes : switch.takesValue = true) (hvalue : Argument.classify value = .ok .operand) :
    parse [spelling, value] = parse [switch.glued value] := by
  have hglued := parse_map_glued [(switch, value)] (by simpa using htakes)
  rw [List.map_singleton] at hglued
  rw [hglued, parse, Argument.classifyAll, hspelling]
  dsimp only
  rw [Argument.classifyAll, hvalue]
  show take {} [] [(spelling, .known switch isShort none), (value, .operand)] = _
  rw [take, clusterOf]
  dsimp only [flags]
  rw [if_pos htakes, assignAll, List.foldlM_cons]
  dsimp only
  cases ({} : Options).assign switch value <;> rfl

/-- Any other argument leaves the switch without its value. -/
theorem exists_parse_pair_eq_misuse
    (hspelling : Argument.classify spelling = .ok (.known switch isShort none))
    (htakes : switch.takesValue = true) (hvalue : Argument.classify value ≠ .ok .operand) :
    ∃ m, parse [spelling, value] = .error (.misuse m) := by
  have hmissing (found : Argument) (h : found ≠ .operand) :
      take {} [] [(spelling, .known switch isShort none), (value, found)] =
        .error (.misuse (.valueMissing switch)) := by
    rw [take, clusterOf]
    dsimp only
    rw [if_pos htakes]
    cases found <;> first | rfl | exact absurd rfl h
  rw [parse, Argument.classifyAll, hspelling]
  dsimp only
  rw [Argument.classifyAll]
  cases hfound : Argument.classify value with
  | error m => exact ⟨m, rfl⟩
  | ok found =>
      refine ⟨.valueMissing switch, ?_⟩
      rw [hfound] at hvalue
      have hne : found ≠ .operand := fun heq => hvalue (heq ▸ rfl)
      cases found with
      | operand => exact absurd rfl hne
      | _ => exact hmissing _ hne

end Options

/-! ### A preset behind its switch -/

/-- `classify` takes the short switch of a preset for one whose value may follow. -/
theorem classify_preset : Argument.classify "-p" = .ok (.known .preset true none) := by
  rfl

/-- A text with `isValue` is the same preset behind the switch and glued to it. -/
theorem run_separate_of_isValue {text : String} (h : Argument.isValue text.toList = true) :
    run ["-p", text] = run ["--preset=" ++ text] := by
  have hne : text ≠ "--" := by
    rintro rfl
    exact absurd h (by decide)
  have hparse := Options.parse_pair_of_operand classify_preset (by decide)
    ((Argument.classify_eq_operand_iff hne).mpr h)
  rw [run, hparse]
  rfl

/-- A text without `isValue` is refused behind the switch, and nothing is printed. -/
theorem report_separate_of_not_isValue {text : String} (hne : text ≠ "--")
    (h : Argument.isValue text.toList = false) (s : Session) :
    (s.step (.run ["-p", text])).1.outcome = .ok (.exit 2) ∧
      (s.step (.run ["-p", text])).1.output = "" := by
  have hoperand : Argument.classify text ≠ .ok .operand := by
    rw [Ne, Argument.classify_eq_operand_iff hne, h]
    decide
  obtain ⟨m, hparse⟩ := Options.exists_parse_pair_eq_misuse classify_preset (by decide) hoperand
  obtain ⟨complaint, hmisused⟩ := exists_on_misused m { s with output := "", errors := "" }
  obtain ⟨houtcome, houtput⟩ := report_step_run s ["-p", text]
  rw [houtcome, houtput, run, hparse]
  dsimp only
  rw [hmisused]
  exact ⟨rfl, rfl⟩

/-- A text without `isValue` begins with a hyphen, so it is a custom preset. -/
theorem parse_of_not_isValue {text : String} (h : Argument.isValue text.toList = false) :
    Preset.parse (.ofString text) = .ok (.custom (some (.ofString text))) := by
  have hform : isTokenForm text.toList = false := by
    unfold Argument.isValue at h
    split at h
    next c rest htext =>
      have hhyphen : Text.isWord '-' = false := by decide
      rw [htext, isTokenForm, hhyphen, Bool.false_and]
    next => cases h
  rw [Preset.parse, Text.string?_ofString]
  dsimp only
  rw [hform]
  rfl

/-- A preset that can be read and has its arguments is no complaint where it is glued: the run comes
to its end, or is stopped by a fault. -/
theorem on_run_glued_ne {text : String} {p : Preset} {a : Arguments} (hne : text ≠ "--")
    (hparse : Preset.parse (.ofString text) = .ok p) (ha : p.compile.arguments? = some a)
    (s : Session) : ((run ["--preset=" ++ text]).on s).1 ≠ .ok 2 := by
  obtain ⟨config, hload, -⟩ := exists_on_loadConfig_null s
  let options : Options := { preset := .text (.ofString text) }
  rw [run, parse_preset hne]
  show ((carryOut options).on s).1 ≠ _
  rw [carryOut_eq, Action.on_bind, hload]
  dsimp only
  cases hset : ((setUp options).on { s with config }).1 with
  | error fault =>
      rw [Action.on_bind_of_error hset]
      simp
  | ok done =>
      rw [Action.on_bind_of_ok hset]
      let ready := ((setUp options).on { s with config }).2
      let read := ((Session.parse (.text (.ofString text))).on ready).2
      obtain ⟨after, hpresent, -⟩ :=
        exists_on_present_arguments (s := read) options ha rfl rfl
      have hanswer : (answer options).on ready = (present options p).on read := by
        show (readPreset (.text (.ofString text)) >>= _).on ready = _
        rw [Action.on_bind, on_readPreset_of_parse hparse]
      rw [hanswer, hpresent]
      simp

/-- Where `isValue` does not hold, the two runs end in different ways. -/
theorem outcome_separate_ne_glued {text : String} (hne : text ≠ "--")
    (h : Argument.isValue text.toList = false) (s : Session) :
    (s.step (.run ["-p", text])).1.outcome ≠
      (s.step (.run ["--preset=" ++ text])).1.outcome := by
  have hparse := parse_of_not_isValue h
  obtain ⟨a, ha, -⟩ := Preset.exists_arguments_of_parse hparse
  have hglued := on_run_glued_ne hne hparse ha { s with output := "", errors := "" }
  rw [(report_separate_of_not_isValue hne h s).1, (report_step_run s _).1]
  intro heq
  cases hrun : ((run ["--preset=" ++ text]).on { s with output := "", errors := "" }).1 with
  | error fault =>
      rw [hrun] at heq
      cases heq
  | ok status =>
      rw [hrun] at heq hglued
      cases heq
      exact hglued rfl

/-- **A preset behind its switch** is answered as one that is glued to it, with the same exit and
the same output, exactly if `isValue` holds of its text: it does not begin with a hyphen, or else is
a negative number or holds a blank, and does not begin like a switch. Any other text is refused
behind the switch. -/
theorem run_separate_iff_glued {text : String} (h : text ≠ "--") (s : Session) :
    ((s.step (.run ["-p", text])).1.outcome =
            (s.step (.run ["--preset=" ++ text])).1.outcome ∧
          (s.step (.run ["-p", text])).1.output =
            (s.step (.run ["--preset=" ++ text])).1.output ↔
        Argument.isValue text.toList = true) ∧
      (Argument.isValue text.toList = false →
        (s.step (.run ["-p", text])).1.outcome = .ok (.exit 2) ∧
          (s.step (.run ["-p", text])).1.output = "") := by
  refine ⟨⟨?_, fun hvalue => ?_⟩, fun hvalue => report_separate_of_not_isValue h hvalue s⟩
  · rintro ⟨houtcome, -⟩
    by_contra hvalue
    exact outcome_separate_ne_glued h (Bool.eq_false_iff.mpr hvalue) s houtcome
  · have hreport : s.step (.run ["-p", text]) = s.step (.run ["--preset=" ++ text]) := by
      rw [Session.step, Session.step, Session.perform, Session.perform,
        run_separate_of_isValue hvalue]
    rw [hreport]
    exact ⟨rfl, rfl⟩

/-- Arguments of the encoder that begin with none of the letters of short switches. -/
theorem run_separate_iff_glued_of_filter :
    let s := Session.fresh ⟨[], [], []⟩ ""
    "-vf 'scale=1280:-2'" ≠ "--" ∧ Argument.isValue "-vf 'scale=1280:-2'".toList = true ∧
      (s.step (.run ["-p", "-vf 'scale=1280:-2'"])).1.outcome =
        (s.step (.run ["--preset=-vf 'scale=1280:-2'"])).1.outcome ∧
      (s.step (.run ["-p", "-vf 'scale=1280:-2'"])).1.output =
        (s.step (.run ["--preset=-vf 'scale=1280:-2'"])).1.output := by
  intro s
  have hvalue : Argument.isValue "-vf 'scale=1280:-2'".toList = true := by decide
  exact ⟨by decide, hvalue, (run_separate_iff_glued (by decide) s).1.mpr hvalue⟩

/-- The arguments that the help text gives as an example begin with the letter of a short switch. -/
theorem not_run_separate_eq_glued_of_example :
    let s := Session.fresh ⟨[], [], []⟩ ""
    "-c:v libx265 -crf 28" ≠ "--" ∧
      ¬((s.step (.run ["-p", "-c:v libx265 -crf 28"])).1.outcome =
            (s.step (.run ["--preset=-c:v libx265 -crf 28"])).1.outcome ∧
          (s.step (.run ["-p", "-c:v libx265 -crf 28"])).1.output =
            (s.step (.run ["--preset=-c:v libx265 -crf 28"])).1.output) := by
  intro s
  refine ⟨by decide, fun ⟨houtcome, _⟩ => ?_⟩
  exact outcome_separate_ne_glued (by decide) (by decide) s houtcome

end CommandLine

end Transcode
