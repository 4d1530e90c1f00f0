import Transcode.Proofs.Preset.Language

/-!
# The errors of preset texts

A text of words may have several faults at once. The words are read one after another, and the first
one that is out of place is reported, whatever comes after it: a word is out of place if it names no
member, or a member of an axis of which a word before it already names one. Only if no word is out
of place is it asked whether there is a codec, and then whether the codec goes with the accelerator.

What the reader has collected after some words is tied to these words by one invariant: its members
are those that the words name. Reading gets past a word exactly if the word is not out of place,
which is the step; a whole text is then followed by induction on how many of its words have been
read.

## Main definitions

* `Preset.NamesAt`, `Preset.IsUnknownAt`, `Preset.RepeatsAt` — what the word at a place is;
* `Preset.OffendsAt`, `Preset.FirstOffence` — a word that is out of place, and the first of them;
* `Preset.AreFound` — the members that are named, in the order of the axes;
* `Session.RefusesWith` — a text is refused, in these words.

## Main results

* `Named.add_eq_error_iff` — when a member is refused;
* `Named.mem_members_iff` — the members that have been collected are those that are named;
* `Named.exists_addWords_take` — reading gets as far as no word is out of place;
* `Named.addWords_of_unknown`, `Named.addWords_of_repeated` — the error of the first word that is;
* `AreFound.unique`, `Named.preset_cases` — what has been found, and what comes of it;
* `Session.parse_reports` — the error of every text of words.
-/

namespace Transcode.Preset

/-! ### Words that are out of place -/

/-- The words of a text between its hyphens. -/
def wordsOf (text : Text) : List String :=
  (pieces text).map Text.plain

section Places

variable (words : List String) (k : Nat)

/-- The word at a place names a member: in lower case it is the name of the member. -/
def NamesAt (m : Member) : Prop :=
  ∃ word, words[k]? = some word ∧ m.name = Text.lower word

/-- The word at a place names no member of any axis. -/
def IsUnknownAt (word : String) : Prop :=
  words[k]? = some word ∧ ∀ m : Member, m.name ≠ Text.lower word

/-- The word at a place names a member, and a word before it one of the same axis. -/
def RepeatsAt (earlier : Nat) (first second : Member) : Prop :=
  earlier < k ∧ NamesAt words earlier first ∧ NamesAt words k second ∧ first.axis = second.axis

/-- The word at a place is **out of place**: it names nothing, or an axis for the second time. -/
def OffendsAt : Prop :=
  (∃ word, IsUnknownAt words k word) ∨ ∃ earlier first second, RepeatsAt words k earlier first second

/-- The word at a place is the first one that is out of place. -/
def FirstOffence : Prop :=
  OffendsAt words k ∧ ∀ j < k, ¬OffendsAt words j

end Places

/-- The members that words name, in the order of the axes. -/
structure AreFound (words : List String) (members : List Member) : Prop where
  ordered : (members.map Member.axis).Sublist Axis.all
  mem_iff : ∀ m, m ∈ members ↔ ∃ k, NamesAt words k m

variable {words : List String} {j k : Nat} {m first second : Member}

/-- `wordsOf` a string are those that the reader sees. -/
theorem wordsOf_ofString (s : String) : wordsOf (Text.ofString s) = Preset.words s := by
  rw [wordsOf, pieces_ofString, Preset.words, List.map_map]
  refine List.map_congr_left fun cs _ => ?_
  rw [Function.comp, ← Text.plain_ofString (String.ofList cs), Text.ofString, String.toList_ofList]

/-- `NamesAt` holds of at most one member at a place. -/
theorem NamesAt.unique (hfirst : NamesAt words k first) (hsecond : NamesAt words k second) :
    first = second := by
  obtain ⟨word, hword, hname⟩ := hfirst
  obtain ⟨other, hother, hname'⟩ := hsecond
  obtain rfl := Option.some.inj (hword.symm.trans hother)
  exact Member.name_injective (hname.trans hname'.symm)

/-- What the first words name. -/
theorem namesAt_take_iff : NamesAt (words.take k) j m ↔ j < k ∧ NamesAt words j m := by
  rw [NamesAt, List.getElem?_take, NamesAt]
  by_cases h : j < k <;> simp [h]

/-- `OffendsAt` a place that is read, it does not matter how many words are read after it. -/
theorem offendsAt_take_iff (h : j < k) : OffendsAt (words.take k) j ↔ OffendsAt words j := by
  have hword : (words.take k)[j]? = words[j]? := List.getElem?_take_of_lt h
  have hnames {i : Nat} (hi : i ≤ j) {n : Member} :
      NamesAt (words.take k) i n ↔ NamesAt words i n := by
    rw [namesAt_take_iff, and_iff_right (by omega)]
  simp only [OffendsAt, IsUnknownAt, RepeatsAt, hword, hnames (Nat.le_refl j)]
  refine or_congr_right (exists_congr fun i => exists₂_congr fun _ _ => ?_)
  exact and_congr_right fun hi => and_congr_left' (hnames (Nat.le_of_lt hi))

/-- Before the first word that is out of place there is only one of its axis. -/
theorem FirstOffence.earlier_unique (h : FirstOffence words k) {i : Nat} {other : Member}
    (hj : RepeatsAt words k j first second) (hi : RepeatsAt words k i other second) : i = j := by
  obtain ⟨hjk, hfirst, -, haxis⟩ := hj
  obtain ⟨hik, hother, -, haxis'⟩ := hi
  rcases Nat.lt_trichotomy i j with hlt | heq | hlt
  · exact absurd (.inr ⟨i, other, first, hlt, hother, hfirst, haxis'.trans haxis.symm⟩) (h.2 j hjk)
  · exact heq
  · exact absurd (.inr ⟨j, first, other, hlt, hfirst, hother, haxis.trans haxis'.symm⟩) (h.2 i hik)

/-- What is found is determined by the words: its order is that of the axes, and no axis occurs
twice. -/
theorem AreFound.unique {members others : List Member} (h : AreFound words members)
    (h' : AreFound words others) : members = others := by
  let before (a b : Axis) : Prop := Axis.all.idxOf a < Axis.all.idxOf b
  have hall : Axis.all.Pairwise before := by decide
  have hordered {ms : List Member} (hms : AreFound words ms) :
      ms.Pairwise fun m n => before m.axis n.axis :=
    List.pairwise_map.mp (hall.sublist hms.ordered)
  have hnodup {ms : List Member} (hms : AreFound words ms) : ms.Nodup :=
    (hordered hms).imp fun hbefore heq => by
      rw [heq] at hbefore
      exact Nat.lt_irrefl _ hbefore
  have hperm : members.Perm others := by
    rw [List.perm_ext_iff_of_nodup (hnodup h) (hnodup h')]
    exact fun m => (h.mem_iff m).trans (h'.mem_iff m).symm
  refine hperm.eq_of_pairwise (fun m n _ _ hmn hnm => ?_) (hordered h) (hordered h')
  exact absurd (Nat.lt_trans hmn hnm) (Nat.lt_irrefl _)

/-! ### One word -/

namespace Named

variable {text : String} {n : Named} {e : PresetError} {word : String} {rest : List String}

/-- `Named.add` refuses a member exactly if its axis has one already, which is reported with it. -/
theorem add_eq_error_iff :
    n.add m = .error e ↔ ∃ first ∈ n.members, first.axis = m.axis ∧ e = .repeatedAxis first m := by
  rcases n with ⟨_ | c, _ | a, _ | q⟩ <;> cases m <;> simp [add, members, Member.axis, eq_comm]

/-- `addWords` ends at a word that names nothing. -/
theorem addWords_cons_of_unknown (h : ∀ m : Member, m.name ≠ Text.lower word) :
    addWords text n (word :: rest) = .error (.unknownWord text word) := by
  have hfind : Member.find? word = none := by
    rw [Option.eq_none_iff_forall_ne_some]
    exact fun m hm => h m (Member.find?_eq_some_iff.mp hm)
  rw [addWords, hfind]

/-- `addWords` adds the member that a word names. -/
theorem addWords_cons_of_name (h : m.name = Text.lower word) :
    addWords text n (word :: rest) =
      match n.add m with
      | .error e => .error e
      | .ok added => addWords text added rest := by
  have hfind := Member.find?_eq_some_iff.mpr h
  cases hadd : n.add m <;> simp only [addWords, hfind, hadd]

/-! ### Word after word -/

/-- `addWords` of several words goes on from what the first ones have named. -/
theorem addWords_append {first : List String} {before : Named}
    (h : addWords text n first = .ok before) :
    addWords text n (first ++ rest) = addWords text before rest := by
  induction first generalizing n with
  | nil =>
      obtain rfl := Except.ok.inj h
      rfl
  | cons word others ih =>
      rw [addWords] at h
      rw [List.cons_append, addWords]
      cases hfind : Member.find? word with
      | none =>
          rw [hfind] at h
          cases h
      | some m =>
          rw [hfind] at h
          dsimp only at h ⊢
          cases hadd : n.add m with
          | error e =>
              rw [hadd] at h
              cases h
          | ok added =>
              rw [hadd] at h
              exact ih h

/-- **`Named.members` are those that the words name**, once they have been read. -/
theorem mem_members_iff (h : addWords text {} words = .ok n) :
    m ∈ n.members ↔ ∃ k, NamesAt words k m := by
  obtain ⟨ms, hnames, hperm⟩ := addWords_eq_ok_iff.mp h
  have hmembers : n.members.Perm ms := by simpa [members] using hperm
  have hname : m ∈ ms ↔ m.name ∈ words.map Text.lower := by
    rw [← hnames, List.mem_map_of_injective fun _ _ => Member.name_injective]
  rw [hmembers.mem_iff, hname, List.mem_map]
  constructor
  · rintro ⟨word, hword, hlower⟩
    obtain ⟨k, hk⟩ := List.mem_iff_getElem?.mp hword
    exact ⟨k, word, hk, hlower.symm⟩
  · rintro ⟨k, word, hk, hlower⟩
    exact ⟨word, List.mem_of_getElem? hk, hlower.symm⟩

/-- `AreFound` holds of what has been collected. -/
theorem areFound_members (h : addWords text {} words = .ok n) : AreFound words n.members where
  ordered := by
    rcases n with ⟨_ | c, _ | a, _ | q⟩ <;> simp [members, Member.axis, Axis.all]
  mem_iff _ := mem_members_iff h

/-- The words before a place, the word there, and those after it. -/
theorem eq_take_append_cons (h : words[k]? = some word) :
    words = words.take k ++ word :: words.drop (k + 1) := by
  obtain ⟨hk, rfl⟩ := List.getElem?_eq_some_iff.mp h
  rw [← List.drop_eq_getElem_cons hk, List.take_append_drop]

/-- `addWords` reports an unknown word, with the whole text, where the words before it have been
read. -/
theorem addWords_of_unknown (hread : addWords text {} (words.take k) = .ok n)
    (h : IsUnknownAt words k word) :
    addWords text {} words = .error (.unknownWord text word) := by
  obtain ⟨hword, hunknown⟩ := h
  rw [eq_take_append_cons hword, addWords_append hread]
  exact addWords_cons_of_unknown hunknown

/-- `addWords` reports a repeated axis where the words before it have been read, with the member
that is named first and the one that is named second. -/
theorem addWords_of_repeated (hread : addWords text {} (words.take k) = .ok n)
    (h : RepeatsAt words k j first second) :
    addWords text {} words = .error (.repeatedAxis first second) := by
  obtain ⟨hj, hfirst, ⟨word, hword, hname⟩, haxis⟩ := h
  have hmem : first ∈ n.members := by
    rw [mem_members_iff hread]
    exact ⟨j, namesAt_take_iff.mpr ⟨hj, hfirst⟩⟩
  have hadd : n.add second = .error (.repeatedAxis first second) :=
    add_eq_error_iff.mpr ⟨first, hmem, haxis, rfl⟩
  rw [eq_take_append_cons hword, addWords_append hread, addWords_cons_of_name hname, hadd]

/-- `addWords` gets past a word that is not out of place. -/
theorem exists_addWords_take_succ (hread : addWords text {} (words.take k) = .ok n)
    (h : ¬OffendsAt words k) : ∃ after, addWords text {} (words.take (k + 1)) = .ok after := by
  rw [List.take_add_one]
  cases hword : words[k]? with
  | none =>
      rw [Option.toList_none, List.append_nil]
      exact ⟨n, hread⟩
  | some word =>
      rw [Option.toList_some, addWords_append hread]
      obtain ⟨m, hname⟩ : ∃ m : Member, m.name = Text.lower word := by
        by_contra hunknown
        exact h (.inl ⟨word, hword, not_exists.mp hunknown⟩)
      rw [addWords_cons_of_name hname]
      cases hadd : n.add m with
      | ok added => exact ⟨added, rfl⟩
      | error e =>
          obtain ⟨first, hfirst, haxis, -⟩ := add_eq_error_iff.mp hadd
          obtain ⟨j, hj⟩ := (mem_members_iff hread).mp hfirst
          obtain ⟨hlt, hnames⟩ := namesAt_take_iff.mp hj
          exact absurd (.inr ⟨j, first, m, hlt, hnames, ⟨word, hword, hname⟩, haxis⟩) h

/-- **`addWords` gets as far as no word is out of place.** The induction is on how many words are
read. -/
theorem exists_addWords_take (text : String) (h : ∀ j < k, ¬OffendsAt words j) :
    ∃ n, addWords text {} (words.take k) = .ok n := by
  induction k with
  | zero => exact ⟨{}, rfl⟩
  | succ k ih =>
      obtain ⟨n, hread⟩ := ih fun j hj => h j (by omega)
      exact exists_addWords_take_succ hread (h k (by omega))

/-- `OffendsAt` holds of no word that has been read. -/
theorem not_offendsAt_of_addWords (h : addWords text {} words = .ok n) : ¬OffendsAt words k := by
  induction k using Nat.strongRecOn with
  | _ k ih =>
      obtain ⟨before, hread⟩ := exists_addWords_take text ih
      rintro (⟨word, hunknown⟩ | ⟨j, first, second, hrepeats⟩)
      · rw [addWords_of_unknown hread hunknown] at h
        cases h
      · rw [addWords_of_repeated hread hrepeats] at h
        cases h

/-! ### After the last word -/

/-- The codec that has been named is among the members. -/
theorem codec_mem_members {c : Codec} : .codec c ∈ n.members ↔ n.codec = some c := by
  simp [members]

/-- So is the accelerator. -/
theorem accelerator_mem_members {a : Accelerator} :
    .accelerator a ∈ n.members ↔ n.accelerator = some a := by
  simp [members]

/-- `Named.preset` is an error if there is no codec, or if it does not go with the accelerator, and
otherwise a preset. -/
theorem preset_cases (n : Named) :
    (n.codec = none ∧ n.preset = .error .noCodec) ∨
      ∃ c, n.codec = some c ∧
        ((InCatalogue c n.accelerator ∧ ∃ p, n.preset = .ok p) ∨
          (¬InCatalogue c n.accelerator ∧ n.preset = .error (.unsupported n.members))) := by
  rw [preset]
  cases n.codec with
  | none => exact .inl ⟨rfl, rfl⟩
  | some c =>
      refine .inr ⟨c, rfl, ?_⟩
      rw [← supports_iff c n.accelerator n.quality.isSome]
      by_cases hsupports : Catalog.supports c n.accelerator n.quality.isSome = true
      · exact .inl ⟨hsupports, _, if_pos hsupports⟩
      · exact .inr ⟨hsupports, if_neg hsupports⟩

end Named

/-- The two errors that are found at the end differ in words, from their first letters on. -/
theorem noCodec_ne_unsupported (description : String) :
    "cannot use preset without a codec" ≠ "preset is not supported (" ++ description ++ ")" := by
  intro h
  have hletters := congrArg String.toList h
  simp [String.toList_append] at hletters

/-- A text of which no word is out of place is read to its end. -/
theorem exists_parse_eq_preset {text : Text} (hwords : IsWords text)
    (h : ∀ k, ¬OffendsAt (wordsOf text) k) :
    ∃ n : Named, AreFound (wordsOf text) n.members ∧ parse text = n.preset := by
  obtain ⟨s, rfl⟩ := exists_eq_ofString_of_isWords hwords
  rw [wordsOf_ofString] at h ⊢
  have hall : ∀ j < (words s).length, ¬OffendsAt (words s) j := fun j _ => h j
  obtain ⟨n, hread⟩ := Named.exists_addWords_take s hall
  rw [List.take_length] at hread
  refine ⟨n, Named.areFound_members hread, ?_⟩
  rw [parse_eq_ofTokenForm hwords, ofTokenForm, hread]

/-- `Preset.parse` reports the first word that is out of place as unknown, if it is. -/
theorem parse_of_unknown {text : Text} (hwords : IsWords text) {word : String}
    (h : FirstOffence (wordsOf text) k) (hunknown : IsUnknownAt (wordsOf text) k word) :
    parse text = .error (.unknownWord text.plain word) := by
  obtain ⟨s, rfl⟩ := exists_eq_ofString_of_isWords hwords
  rw [wordsOf_ofString] at h hunknown
  obtain ⟨n, hread⟩ := Named.exists_addWords_take s h.2
  rw [parse_eq_ofTokenForm hwords, ofTokenForm, Named.addWords_of_unknown hread hunknown,
    Text.plain_ofString]

/-- `Preset.parse` reports the first word that is out of place as a second one of its axis, if it
is. -/
theorem parse_of_repeated {text : Text} (hwords : IsWords text)
    (h : FirstOffence (wordsOf text) k) (hrepeats : RepeatsAt (wordsOf text) k j first second) :
    parse text = .error (.repeatedAxis first second) := by
  obtain ⟨s, rfl⟩ := exists_eq_ofString_of_isWords hwords
  rw [wordsOf_ofString] at h hrepeats
  obtain ⟨n, hread⟩ := Named.exists_addWords_take s h.2
  rw [parse_eq_ofTokenForm hwords, ofTokenForm, Named.addWords_of_repeated hread hrepeats]

end Transcode.Preset

namespace Transcode.Session

open Preset (AreFound FirstOffence IsUnknownAt NamesAt OffendsAt RepeatsAt wordsOf)

/-- `Session.parse` of a text ends with a `PresetError`, in the given words. -/
def RefusesWith (s : Session) (text : Text) (message : String) : Prop :=
  ∃ e, ((parse (.text text)).on s).1 = .error (.preset e) ∧ e.message = message

/-- `RefusesWith` holds of some words exactly if `Preset.parse` refuses the text so. -/
theorem refusesWith_iff {s : Session} {text : Text} {message : String} :
    s.RefusesWith text message ↔ ∃ e, Preset.parse text = .error e ∧ e.message = message := by
  simp only [RefusesWith, parse_text_eq_error_iff]

/-- **The error of every text of words**, in every session. The first word that is out of place
decides it alone. If it names nothing, it is reported with the whole text as it stands. If it names
a second member of some axis, there is just one word before it that names one of that axis, and both
members are reported by their names. If no word is out of place, the text is refused for want of a
codec exactly if none is named; and otherwise for what it combines exactly if the catalogue does not
combine it, with all that has been found in the order of the axes. -/
theorem parse_reports {text : Text} (hwords : Preset.IsWords text) (s : Session) :
    (∀ k, FirstOffence (wordsOf text) k →
      (∀ word, IsUnknownAt (wordsOf text) k word →
        s.RefusesWith text ("'" ++ text.plain ++ "' is not a valid preset (unknown token '"
          ++ word ++ "')")) ∧
      ∀ second, NamesAt (wordsOf text) k second →
        ∃ earlier first, RepeatsAt (wordsOf text) k earlier first second ∧
          (∀ other m, RepeatsAt (wordsOf text) k other m second → other = earlier) ∧
          s.RefusesWith text ("cannot use multiple " ++ second.axis.plural ++ " (found "
            ++ first.name ++ " and " ++ second.name ++ ")")) ∧
    ((∀ k, ¬OffendsAt (wordsOf text) k) →
      ∃ members, AreFound (wordsOf text) members ∧
        (s.RefusesWith text "cannot use preset without a codec" ↔ ∀ c, .codec c ∉ members) ∧
        ∀ codec accelerator, .codec codec ∈ members →
          (∀ a, accelerator = some a ↔ .accelerator a ∈ members) →
          (s.RefusesWith text ("preset is not supported ("
              ++ Text.join ", " (members.map fun m => m.axis.label ++ " " ++ m.name) ++ ")") ↔
            ¬Preset.InCatalogue codec accelerator) ∧
          (Preset.InCatalogue codec accelerator → ∃ p, ((parse (.text text)).on s).1 = .ok p)) := by
  simp only [refusesWith_iff, parse_text_eq_ok_iff]
  constructor
  · intro k hfirst
    refine ⟨fun word hunknown => ?_, fun second hsecond => ?_⟩
    · exact ⟨_, Preset.parse_of_unknown hwords hfirst hunknown, rfl⟩
    · obtain ⟨word, ⟨hword, hunknown⟩⟩ | ⟨earlier, first, other, hrepeats⟩ := hfirst.1
      · obtain ⟨found, hfound, hname⟩ := hsecond
        obtain rfl := Option.some.inj (hword.symm.trans hfound)
        exact absurd hname (hunknown second)
      · obtain rfl := hrepeats.2.2.1.unique hsecond
        refine ⟨earlier, first, hrepeats, fun _ _ => hfirst.earlier_unique hrepeats, ?_⟩
        exact ⟨_, Preset.parse_of_repeated hwords hfirst hrepeats, rfl⟩
  · intro hnone
    obtain ⟨n, hfound, hparse⟩ := Preset.exists_parse_eq_preset hwords hnone
    refine ⟨n.members, hfound, ?_⟩
    simp only [hparse, Preset.Named.codec_mem_members, Preset.Named.accelerator_mem_members]
    obtain ⟨hcodec, hpreset⟩ | ⟨c, hcodec, hcatalogue⟩ := n.preset_cases
    · refine ⟨iff_of_true ⟨_, hpreset, rfl⟩ (by simp [hcodec]), fun codec _ hc => ?_⟩
      rw [hcodec] at hc
      cases hc
    · constructor
      · refine iff_of_false ?_ fun hnone => hnone c hcodec
        rintro ⟨e, he, hmessage⟩
        obtain ⟨-, p, hpreset⟩ | ⟨-, hpreset⟩ := hcatalogue
        · cases hpreset.symm.trans he
        · cases hpreset.symm.trans he
          exact Preset.noCodec_ne_unsupported _ hmessage.symm
      · intro codec accelerator hc ha
        obtain rfl := Option.some.inj (hcodec.symm.trans hc)
        obtain rfl : accelerator = n.accelerator := Option.ext fun a => ha a
        obtain ⟨hin, p, hpreset⟩ | ⟨hout, hpreset⟩ := hcatalogue
        · refine ⟨iff_of_false ?_ (not_not_intro hin), fun _ => ⟨p, hpreset⟩⟩
          rintro ⟨e, he, -⟩
          cases hpreset.symm.trans he
        · exact ⟨iff_of_true ⟨_, hpreset, rfl⟩ hout, fun hin => absurd hin hout⟩

/-- A second codec before a word that names nothing; and two members that do not go together, with
the codec behind. -/
theorem parse_reports_of_several :
    let text : Text := "low-H264-nvidia-h265-foo"
    let s := fresh ⟨[], [], []⟩ ""
    Preset.IsWords text ∧ FirstOffence (wordsOf text) 3 ∧
      s.RefusesWith text "cannot use multiple codecs (found h264 and h265)" ∧
      Preset.IsWords "NVIDIA-av1" ∧ (∀ k, ¬OffendsAt (wordsOf "NVIDIA-av1") k) ∧
      s.RefusesWith "NVIDIA-av1"
        "preset is not supported (codec av1, hardware acceleration nvidia)" := by
  intro text s
  have hwords : Preset.IsWords text := by decide +kernel
  have hwords' : Preset.IsWords "NVIDIA-av1" := by decide +kernel
  have hsecond : NamesAt (wordsOf text) 3 (.codec .h265) := ⟨"h265", by decide +kernel⟩
  have hearlier : NamesAt (wordsOf text) 1 (.codec .h264) := ⟨"H264", by decide +kernel⟩
  have hrepeats : RepeatsAt (wordsOf text) 3 1 (.codec .h264) (.codec .h265) :=
    ⟨by decide, hearlier, hsecond, rfl⟩
  have hfirst : FirstOffence (wordsOf text) 3 := by
    refine ⟨.inr ⟨_, _, _, hrepeats⟩, fun j hj => ?_⟩
    rw [← Preset.offendsAt_take_iff hj]
    have hread : Preset.Named.addWords "" {} ((wordsOf text).take 3) =
        .ok ⟨some .h264, some .nvidia, some .low⟩ := by decide +kernel
    exact Preset.Named.not_offendsAt_of_addWords hread
  have hread : Preset.Named.addWords "" {} (wordsOf "NVIDIA-av1") =
      .ok ⟨some .av1, some .nvidia, none⟩ := by decide +kernel
  have hnone : ∀ k, ¬OffendsAt (wordsOf "NVIDIA-av1") k := fun k =>
    Preset.Named.not_offendsAt_of_addWords hread
  refine ⟨hwords, hfirst, ?_, hwords', hnone, ?_⟩
  · obtain ⟨earlier, first, hfound, hsingle, hrefuses⟩ :=
      ((parse_reports hwords s).1 3 hfirst).2 _ hsecond
    obtain rfl := hsingle 1 _ hrepeats
    obtain rfl := hfound.2.1.unique hearlier
    exact hrefuses
  · obtain ⟨members, hfound, -, hcombined⟩ := (parse_reports hwords' s).2 hnone
    obtain rfl := hfound.unique (Preset.Named.areFound_members hread)
    have hrefused := hcombined .av1 (some .nvidia) (by decide) fun a => by cases a <;> decide
    exact hrefused.1.mpr (by decide)

end Transcode.Session
