import Mathlib.Data.List.Perm.Basic
import Transcode.Proofs.Config.FileAlone
import Transcode.Proofs.Text.Pieces
import Transcode.Proofs.Value.Recognition

/-!
# The strangers in a configuration file

A configuration file spells an object, whose members are given one after another, perhaps several
with one name. The names that belong to no setting are strangers. If there are none, the file is
read, and each name has the value that is given to it last. Otherwise the fault tells all strangers,
each of them once, in the order of their codes, and it is the same fault whichever way the file is
used.

What a file spells is told by the grammar of values. The members of an object that is read have the
names of the members that are spelled; where no two names are the same, those that are no settings
are found one by one; and sorting them gives the only row in which each of them stands before the
next.

## Main definitions

* `Text.Precedes` — the order of texts by their codes;
* `Document.AreStrangers` — the strangers among some members, in their order.

## Main results

* `AreStrangers.unique` — there is one row of strangers;
* `check_object_eq` — the check of an object, with all that it tells;
* `read_names_strangers` — the files that are read, and the fault of all others.
-/

namespace Transcode

namespace Text

/-! ### The order of texts -/

/-- A text comes before another one in the order of `Sign.code`s: it has a smaller code where they
first differ, or is the front of the other one. -/
def Precedes (a b : Text) : Prop :=
  List.Lex (fun m n : Nat => m < n) (a.map Sign.code) (b.map Sign.code)

instance (a b : Text) : Decidable (Precedes a b) :=
  List.decidableLex (fun m n : Nat => m < n) (a.map Sign.code) (b.map Sign.code)

theorem code_injective : Function.Injective Sign.code :=
  Function.LeftInverse.injective Sign.ofCode_code

theorem Precedes.asymm {a b : Text} (h : Precedes a b) : ¬Precedes b a :=
  List.lt_asymm h

theorem Precedes.trans {a b c : Text} (h : Precedes a b) (h' : Precedes b c) : Precedes a c :=
  List.lt_trans h h'

theorem Precedes.ne {a b : Text} (h : Precedes a b) : a ≠ b := by
  rintro rfl
  exact h.asymm h

/-- Two texts are the same unless one of them `Precedes` the other one. -/
theorem eq_of_not_precedes {a b : Text} (h : ¬Precedes a b) (h' : ¬Precedes b a) : a = b :=
  List.map_injective_iff.mpr code_injective (List.le_antisymm h' h)

/-- `notAfter` holds of two texts unless the second one `Precedes` the first one. -/
theorem notAfter_iff {a b : Text} : notAfter a b = true ↔ ¬Precedes b a :=
  decide_eq_true_iff

/-- `mergeSort` by `notAfter` leaves texts that precede one another, if no two of them are the same.
-/
theorem pairwise_precedes_mergeSort {texts : List Text} (h : texts.Nodup) :
    (texts.mergeSort notAfter).Pairwise Precedes := by
  have htrans (a b c : Text) (hab : notAfter a b = true) (hbc : notAfter b c = true) :
      notAfter a c = true := by
    rw [notAfter_iff] at hab hbc ⊢
    intro hca
    by_cases hba : Precedes a b
    · exact hbc (hca.trans hba)
    · exact hbc (eq_of_not_precedes hba hab ▸ hca)
  have htotal (a b : Text) : (notAfter a b || notAfter b a) = true := by
    rw [Bool.or_eq_true, notAfter_iff, notAfter_iff]
    by_cases hba : Precedes b a
    · exact .inr hba.asymm
    · exact .inl hba
  have hsorted := List.pairwise_mergeSort htrans htotal texts
  have hnodup := (List.mergeSort_perm texts notAfter).nodup_iff.mpr h
  refine (hsorted.and hnodup).imp fun {a b} ⟨hab, hne⟩ => ?_
  by_contra hnot
  exact hne (eq_of_not_precedes hnot (notAfter_iff.mp hab))

/-- Texts with `Precedes` between them are in the only order in which they are. -/
theorem eq_of_pairwise_precedes {texts others : List Text} (h : texts.Pairwise Precedes)
    (h' : others.Pairwise Precedes) (hmem : ∀ t, t ∈ texts ↔ t ∈ others) : texts = others := by
  have hperm := (List.perm_ext_iff_of_nodup (h.imp Precedes.ne) (h'.imp Precedes.ne)).mpr hmem
  exact hperm.eq_of_pairwise (fun a b _ _ hab hba => absurd hba hab.asymm) h h'

/-! ### Texts in a message -/

/-- `plain` of joined texts is `join` of what is `plain` of each. -/
theorem plain_joinWith (separator : String) (texts : List Text) :
    plain (joinWith (ofString separator) texts) = join separator (texts.map plain) := by
  have hseparator := congrArg String.toList (plain_ofString separator)
  rw [plain, String.toList_ofList] at hseparator
  have htexts : (texts.map plain).map String.toList = texts.map (List.map Sign.toChar) := by
    simp [plain]
  rw [plain, map_joinWith, hseparator, join, htexts]

end Text

namespace Document

variable {members entries : List (Text × Value)} {strangers names : List Text}

/-! ### Strangers -/

/-- The strangers among some members: each name that belongs to no setting, once and in the order of
codes. -/
structure AreStrangers (members : List (Text × Value)) (strangers : List Text) : Prop where
  mem_iff (name : Text) : name ∈ strangers ↔
    name ∈ members.map Prod.fst ∧ ∀ setting : Setting, name ≠ .ofString setting.name
  inOrder : strangers.Pairwise Text.Precedes

/-- `AreStrangers` holds of one row of texts. -/
theorem AreStrangers.unique {others : List Text} (h : AreStrangers members strangers)
    (h' : AreStrangers members others) : strangers = others :=
  Text.eq_of_pairwise_precedes h.inOrder h'.inOrder fun name => by rw [h.mem_iff, h'.mem_iff]

/-- `AreStrangers` holds of none exactly if all names are those of settings. -/
theorem AreStrangers.eq_nil_iff (h : AreStrangers members strangers) :
    strangers = [] ↔
      ∀ member ∈ members, ∃ setting : Setting, member.1 = .ofString setting.name := by
  rw [List.eq_nil_iff_forall_not_mem]
  constructor
  · intro hnone member hmember
    by_contra hnot
    rw [not_exists] at hnot
    exact hnone member.1 ((h.mem_iff _).mpr ⟨List.mem_map_of_mem hmember, hnot⟩)
  · intro hall name hname
    obtain ⟨hmem, hnot⟩ := (h.mem_iff name).mp hname
    obtain ⟨member, hmember, rfl⟩ := List.mem_map.mp hmem
    obtain ⟨setting, hsetting⟩ := hall member hmember
    exact hnot setting hsetting

/-! ### The check of an object -/

/-- The names of an object that are unknown, as texts. -/
def unknownNames (entries : List (Text × Value)) : List Text :=
  (entries.map Prod.fst).filter fun name => (Setting.find? name).isNone

theorem strangers_eq (entries : List (Text × Value)) :
    Document.strangers entries = (unknownNames entries).map .text := by
  have hunknown (name : Text) : (!isKnown (.text name)) = (Setting.find? name).isNone :=
    Option.not_isSome _
  simp only [Document.strangers, unknownNames, List.filter_map, List.map_map, Function.comp_def,
    hunknown]

/-- `eraseDupsBy` takes nothing out of texts that are not the same. -/
theorem eraseDupsBy_texts (h : names.Nodup) :
    (names.map Value.text).eraseDupsBy Value.same = names.map Value.text := by
  induction names with
  | nil => rfl
  | cons name rest ih =>
      rw [List.nodup_cons] at h
      have hkept : (rest.map Value.text).filter (fun b => decide (b.same (.text name) = false)) =
          rest.map Value.text := by
        rw [List.filter_eq_self]
        intro value hvalue
        obtain ⟨other, hother, rfl⟩ := List.mem_map.mp hvalue
        have hne : other ≠ name := fun heq => h.1 (heq ▸ hother)
        simp [Value.same, hne]
      rw [List.map_cons, List.eraseDupsBy_cons, hkept, ih h.2]

/-- `refusal?` tells all names that are texts, in order. -/
theorem refusal?_texts (name : Text) (rest : List Text) :
    refusal? ((name :: rest).map Value.text) =
      some (.unknownSettings ((name :: rest).mergeSort Text.notAfter)) := by
  have hordered :
      (rest.map Value.text).find? (fun other => !ordered (.text name) other) = none := by
    simp [List.find?_eq_none, ordered]
  have htexts : (rest.map Value.text).filterMap text? = rest := by
    simp [List.filterMap_map, Function.comp_def, text?]
  rw [List.map_cons, refusal?, hordered]
  dsimp only
  rw [htexts]

/-- **The `check` of an object**: it passes if no name is unknown, and otherwise its fault lists all
that are unknown in order. -/
theorem check_object_eq (h : (entries.map Prod.fst).Nodup) :
    check (.object entries) =
      if unknownNames entries = [] then .ok (.object entries)
      else .error (.unknownSettings ((unknownNames entries).mergeSort Text.notAfter)) := by
  have hnodup : (unknownNames entries).Nodup := h.filter _
  have hstrangers := strangers_eq entries
  rw [Document.strangers] at hstrangers
  rw [check, names]
  dsimp only
  rw [hstrangers, eraseDupsBy_texts hnodup]
  cases hunknown : unknownNames entries with
  | nil => rfl
  | cons name rest => rw [refusal?_texts, if_neg (List.cons_ne_nil name rest)]

/-- `AreStrangers` holds of the unknown names of an object, sorted, and the members that spell it.
-/
theorem areStrangers_mergeSort (members : List (Text × Value)) :
    AreStrangers members ((unknownNames (Entries.ofList members)).mergeSort Text.notAfter) where
  mem_iff name := by
    have hunknown : (Setting.find? name).isNone = true ↔
        ∀ setting : Setting, name ≠ .ofString setting.name := by
      rw [← Option.not_isSome, Bool.not_eq_true', ← Bool.not_eq_true, Setting.isSome_find?_iff]
      exact not_exists
    rw [List.mem_mergeSort, unknownNames, List.mem_filter, hunknown, Entries.mem_names_ofList]
  inOrder := Text.pairwise_precedes_mergeSort ((Entries.nodup_ofList members).filter _)

/-! ### Files -/

variable {files : Files} {path : Text} {bytes : List UInt8} {text : List Char}

/-- `ofBytes` reads a file that spells an object unless there are strangers in it. -/
theorem exists_strangers_of_spells (hfile : files.read path = .ok bytes)
    (htext : Text.Utf8.decode bytes = .ok text)
    (hobject : Value.SpellsObject (Text.unifyLineEnds text) members) :
    ∃ strangers, AreStrangers members strangers ∧
      read files path =
        if strangers = [] then .ok (.object (Entries.ofList members))
        else .error (.unknownSettings strangers) := by
  have hvalue := Value.read_eq_object_iff.mpr ⟨members, hobject, rfl⟩
  have hempty : (unknownNames (Entries.ofList members)).mergeSort Text.notAfter = [] ↔
      unknownNames (Entries.ofList members) = [] := by
    rw [← List.length_eq_zero_iff, List.length_mergeSort, List.length_eq_zero_iff]
  refine ⟨_, areStrangers_mergeSort members, ?_⟩
  simp only [hempty]
  rw [read, hfile]
  dsimp only
  rw [ofBytes, htext]
  dsimp only
  rw [hvalue]
  exact check_object_eq (Entries.nodup_ofList members)

/-- The message about strangers names them all, with commas between them. -/
theorem message_unknownSettings (strangers : List Text) :
    (Fault.unknownSettings strangers).message =
      Text.plain (Text.ofString "未知配置项: " ++ Text.joinWith (Text.ofString ", ") strangers) := by
  rw [Text.plain_append, Text.plain_ofString "未知配置项: ", Text.plain_joinWith ", "]
  rfl

/-- A file in which nothing but an object is read is at fault in the same way whether
`Config.ofFile` or `Session.load` reads it. -/
theorem faults_of_read_object (hfile : files.read path = .ok bytes)
    (hobject : ∀ value, read files path = .ok value → ∃ entries, value = .object entries)
    (fault : Fault) :
    (Config.ofFile files path = .error fault ↔ read files path = .error fault) ∧
      ∀ s : Session, s.files = files →
        (((Session.load (.text path)).on s).1 = .error fault ↔ read files path = .error fault) := by
  obtain ⟨hthere, hgiven⟩ := Files.has_of_read hfile
  have hload (s : Session) (hs : s.files = files) :
      ((Session.load (.text path)).on s).1 = .error fault ↔
        entriesAt files (.text path) = .error fault := by
    rw [Session.load_eq_error_iff, hs]
  cases hread : read files path with
  | error found =>
      refine ⟨by simp [Config.ofFile, hread], fun s hs => ?_⟩
      rw [hload s hs, entriesAt_of_has hgiven hthere, hread]
      simp only [Except.error.injEq]
  | ok value =>
      obtain ⟨entries, rfl⟩ := hobject value hread
      refine ⟨by simp [ofFile_of_read_object hread], fun s hs => ?_⟩
      simp [hload s hs, entriesAt_of_read_object hgiven hthere hread]

/-- **A configuration file tells its strangers.** A file that spells an object is read exactly if
the names of all members are those of settings, and then each name has the value of the last member
with that name. Otherwise the fault names the strangers, each of them once, in the order of their
codes. `Config.ofFile` and `Session.load` fault in the same way. -/
theorem read_names_strangers (hfile : files.read path = .ok bytes)
    (htext : Text.Utf8.decode bytes = .ok text)
    (hobject : Value.SpellsObject (Text.unifyLineEnds text) members) :
    ((∃ value, read files path = .ok value) ↔
        ∀ member ∈ members, ∃ setting : Setting, member.1 = .ofString setting.name) ∧
      (∀ value, read files path = .ok value →
        ∃ entries, value = .object entries ∧ (entries.map Prod.fst).Nodup ∧
          ∀ name, Entries.get? name entries = Entries.last? name members) ∧
      (∀ fault, read files path = .error fault →
        ∃ strangers, AreStrangers members strangers ∧ fault = .unknownSettings strangers ∧
          fault.kind = .kindOfValue ∧
          fault.message =
            Text.plain
              (Text.ofString "未知配置项: " ++ Text.joinWith (Text.ofString ", ") strangers)) ∧
      ∀ fault,
        (Config.ofFile files path = .error fault ↔ read files path = .error fault) ∧
          ∀ s : Session, s.files = files →
            (((Session.load (.text path)).on s).1 = .error fault ↔
              read files path = .error fault) := by
  obtain ⟨strangers, hstrangers, hread⟩ := exists_strangers_of_spells hfile htext hobject
  have hvalue : ∀ value, read files path = .ok value →
      value = .object (Entries.ofList members) := by
    intro value hok
    rw [hread] at hok
    split at hok <;> cases hok
    rfl
  refine ⟨?_, fun value hok => ?_, fun fault hfault => ?_, fun fault => ?_⟩
  · rw [← hstrangers.eq_nil_iff, hread]
    split
    next hnil => exact iff_of_true ⟨_, rfl⟩ hnil
    next hsome => exact iff_of_false (by rintro ⟨_, ⟨⟩⟩) hsome
  · exact ⟨_, hvalue value hok, Entries.nodup_ofList members,
      fun name => Entries.get?_ofList name members⟩
  · rw [hread] at hfault
    split at hfault
    next => cases hfault
    next =>
      cases hfault
      exact ⟨strangers, hstrangers, rfl, rfl, message_unknownSettings strangers⟩
  · exact faults_of_read_object hfile (fun value hok => ⟨_, hvalue value hok⟩) fault

/-- A name of a setting that is spelled with a code and given twice, and two strangers, one of them
given twice and the other one with a capital letter, which comes first. -/
theorem read_names_strangers_of_escaped :
    let text :=
      ("\x7b \"log\\u005flevel\" : 1,\r\n\"zoom\": [\x7b\"a\": -12\x7d, NaN]," ++
        "\"log_level\": null, \"\\u0050reset\": \"\\ud83d\\ude00\"," ++
        "\"zoom\":\x7b\x7d\t\x7d\r\n").toList
    let bytes := Text.Utf8.encode text
    let files := (⟨[], [], []⟩ : Files).place "c.json" bytes
    files.read "c.json" = .ok bytes ∧ Text.Utf8.decode bytes = .ok text ∧
      ∃ members, Value.SpellsObject (Text.unifyLineEnds text) members ∧
        members.map Prod.fst =
          ["log_level", "zoom", "log_level", "Preset", "zoom"].map Text.ofString ∧
        ∃ fault, read files "c.json" = .error fault ∧
          fault.message = "未知配置项: Preset, zoom" ∧
          Config.ofFile files "c.json" = .error fault ∧
          ((Session.load (.text "c.json")).on (Session.fresh files "")).1 = .error fault := by
  intro text bytes files
  have hfile : files.read "c.json" = .ok bytes := by decide +kernel
  have htext : Text.Utf8.decode bytes = .ok text := Text.Utf8.decode_encode text
  have hnames : (Value.members? (Text.unifyLineEnds text)).map (List.map Prod.fst) =
      some (["log_level", "zoom", "log_level", "Preset", "zoom"].map Text.ofString) := by
    decide +kernel
  have hkind : (Value.readWhole (Text.unifyLineEnds text)).map Value.kind = .ok .object := by
    decide +kernel
  obtain ⟨entries, hobject⟩ :
      ∃ entries, Value.readWhole (Text.unifyLineEnds text) = .ok (.object entries) := by
    cases hvalue : Value.readWhole (Text.unifyLineEnds text) with
    | error fault =>
        rw [hvalue] at hkind
        cases hkind
    | ok value =>
        rw [hvalue] at hkind
        cases value with
        | object entries => exact ⟨entries, rfl⟩
        | _ => cases hkind
  obtain ⟨members, hmembers, hnames⟩ := Option.map_eq_some_iff.mp hnames
  have hspelled := Value.SpellsObject.of_members? hobject hmembers
  obtain ⟨hknown, -, hfault, hsame⟩ := read_names_strangers hfile htext hspelled
  have hstrangers : AreStrangers members (["Preset", "zoom"].map Text.ofString) := by
    refine ⟨fun name => ?_, by decide⟩
    rw [hnames]
    simp only [List.map_cons, List.map_nil, List.mem_cons, List.not_mem_nil, or_false]
    constructor
    · rintro (rfl | rfl)
      · exact ⟨by decide, fun setting => by cases setting <;> decide⟩
      · exact ⟨by decide, fun setting => by cases setting <;> decide⟩
    · rintro ⟨rfl | rfl | rfl | rfl | rfl, hnot⟩
      · exact absurd rfl (hnot .logLevel)
      · exact .inr rfl
      · exact absurd rfl (hnot .logLevel)
      · exact .inl rfl
      · exact .inr rfl
  refine ⟨hfile, htext, members, hspelled, hnames, ?_⟩
  cases hresult : read files "c.json" with
  | ok value =>
      have hnil := hstrangers.eq_nil_iff.mpr (hknown.mp ⟨value, hresult⟩)
      cases hnil
  | error fault =>
      obtain ⟨strangers, htold, rfl, -, hmessage⟩ := hfault fault hresult
      obtain rfl := htold.unique hstrangers
      obtain ⟨hown, hload⟩ := hsame _
      refine ⟨_, rfl, ?_, hown.mpr hresult, (hload _ rfl).mpr hresult⟩
      rw [hmessage]
      decide +kernel

end Document

end Transcode
