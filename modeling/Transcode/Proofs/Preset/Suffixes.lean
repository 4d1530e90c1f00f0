import Transcode.Preset.Container
import Transcode.Proofs.Text.LetterCase
import Transcode.Proofs.Text.Pieces

/-!
# Suffixes of paths

Whether a file can hold soft subtitles is told by its suffix, and the suffix may be given in four
ways: alone, with its dot, behind a name, or at the end of a path. All four have the same answer.

A path may end in slashes and in single dots between them. They are no components, so they do not
hide the last name. A dot begins a suffix only if there is something before it and something behind
it in that name. A path without such a dot is not taken for a suffix itself, because of its slash.

## Main definitions

* `IsSuffix` — what a suffix is without its dot;
* `IsTrail` — what may stand behind the last name of a path;
* `HasNoInnerDot` — a name without a dot between its first and last characters.

## Main results

* `suffixOf_append_dot`, `suffixOf_of_hasNoInnerDot` — the suffix of a name;
* `lastComponent_append_trail` — the last name of a path;
* `supportsSoftSubtitles_alike` — the four ways of giving a suffix.
-/

namespace Transcode

open Text (splitAt)

/-- A suffix without its dot: it is not empty, and it has no dots and no slashes. -/
structure IsSuffix (suffix : List Char) : Prop where
  ne_nil : suffix ≠ []
  no_dot : '.' ∉ suffix
  no_slash : '/' ∉ suffix

/-- What may stand behind the last name of a path: slashes, some of them with a single dot behind
them. -/
inductive IsTrail : List Char → Prop where
  | nil : IsTrail []
  | slash {rest : List Char} (h : IsTrail rest) : IsTrail ('/' :: rest)
  | slashDot {rest : List Char} (h : IsTrail rest) : IsTrail ('/' :: '.' :: rest)

/-- Every dot of a name is its first character or its last one. -/
def HasNoInnerDot (name : List Char) : Prop :=
  ∀ before behind, name = before ++ '.' :: behind → before = [] ∨ behind = []

/-! ### The suffix of a name -/

section Names

variable {name stem suffix : List Char}

/-- The characters from the end of a name up to its last dot. -/
theorem takeWhile_reverse_append_dot (h : '.' ∉ suffix) (stem : List Char) :
    ((stem ++ '.' :: suffix).reverse.takeWhile (· != '.')).reverse = suffix := by
  have hsuffix : ∀ c ∈ suffix.reverse, (c != '.') = true := by
    intro c hc
    rw [bne_iff_ne]
    rintro rfl
    exact h (List.mem_reverse.mp hc)
  rw [List.reverse_append, List.reverse_cons, List.append_assoc,
    List.takeWhile_append_of_pos hsuffix]
  simp

/-- `suffixOf` a name is what stands behind its last dot, if something stands before the dot. -/
theorem suffixOf_append_dot (h : IsSuffix suffix) (hstem : stem ≠ []) :
    suffixOf (stem ++ '.' :: suffix) = '.' :: suffix := by
  have hlength : 0 < stem.length := List.length_pos_of_ne_nil hstem
  rw [suffixOf]
  simp only [takeWhile_reverse_append_dot h.no_dot, List.length_append, List.length_cons]
  rw [if_neg]
  simp only [Bool.or_eq_true, List.isEmpty_iff, decide_eq_true_eq, not_or]
  exact ⟨h.ne_nil, by omega⟩

/-- What does not reach back to the beginning of a name has a dot before it. -/
theorem exists_eq_append_dot (h : (name.reverse.takeWhile (· != '.')).length < name.length) :
    ∃ before, name = before ++ '.' :: (name.reverse.takeWhile (· != '.')).reverse := by
  have hsplit := List.takeWhile_append_dropWhile (p := (· != '.')) (l := name.reverse)
  cases hrest : name.reverse.dropWhile (· != '.') with
  | nil =>
      rw [hrest, List.append_nil] at hsplit
      rw [hsplit, List.length_reverse] at h
      exact absurd h (Nat.lt_irrefl _)
  | cons c before =>
      have hc : c = '.' := by
        have hhead := List.head_dropWhile_not (· != '.') (l := name.reverse) (by simp [hrest])
        simpa [hrest] using hhead
      refine ⟨before.reverse, ?_⟩
      rw [hrest, hc] at hsplit
      have hname := congrArg List.reverse hsplit
      rw [List.reverse_reverse, List.reverse_append, List.reverse_cons, List.append_assoc] at hname
      exact hname.symm

/-- `suffixOf` a name with `HasNoInnerDot` is empty. -/
theorem suffixOf_of_hasNoInnerDot (h : HasNoInnerDot name) : suffixOf name = [] := by
  rw [suffixOf]
  refine if_pos ?_
  by_contra hsuffix
  simp only [Bool.or_eq_true, List.isEmpty_iff, List.reverse_eq_nil_iff, decide_eq_true_eq,
    List.length_reverse, not_or, Nat.not_le] at hsuffix
  obtain ⟨hne, hlength⟩ := hsuffix
  obtain ⟨before, hname⟩ := exists_eq_append_dot (Nat.lt_of_succ_lt hlength)
  rcases h before _ hname with rfl | hnil
  · have hwhole := congrArg List.length hname
    simp only [List.nil_append, List.length_cons, List.length_reverse] at hwhole
    omega
  · exact hne (List.reverse_eq_nil_iff.mp hnil)

/-- `HasNoInnerDot` holds of a suffix alone, whether its own dot is in front of it or not. -/
theorem IsSuffix.hasNoInnerDot (h : IsSuffix suffix) :
    HasNoInnerDot suffix ∧ HasNoInnerDot ('.' :: suffix) := by
  constructor
  · rintro before behind rfl
    exact absurd (by simp) h.no_dot
  · intro before behind heq
    cases before with
    | nil => exact .inl rfl
    | cons c before =>
        obtain ⟨-, rfl⟩ := List.cons.inj heq
        exact absurd (by simp) h.no_dot

end Names

/-! ### The last name of a path -/

section Paths

variable {name trail : List Char}

/-- A piece of a path that counts as a component. -/
def isComponent (piece : List Char) : Bool :=
  !piece.isEmpty && piece != ['.']

/-- `isComponent` holds of a name with a suffix. -/
theorem isComponent_append_dot {suffix : List Char} (h : suffix ≠ []) (stem : List Char) :
    isComponent (stem ++ '.' :: suffix) = true := by
  cases stem with
  | nil => simp [isComponent, h]
  | cons c stem => simp [isComponent]

theorem lastComponent_eq (path : List Char) :
    lastComponent path = ((splitAt '/' path).filter isComponent).getLastD [] := rfl

/-- There are no components behind a name that a trail follows. -/
theorem IsTrail.exists_splitAt (h : IsTrail trail) (hname : '/' ∉ name) :
    ∃ others, splitAt '/' (name ++ trail) = name :: others ∧
      ∀ piece ∈ others, isComponent piece = false := by
  induction h generalizing name with
  | nil => exact ⟨[], by rw [List.append_nil, Text.splitAt_of_not_mem hname], by simp⟩
  | slash _ ih =>
      have hempty : '/' ∉ ([] : List Char) := List.not_mem_nil
      obtain ⟨others, hothers, hnone⟩ := ih hempty
      refine ⟨[] :: others, ?_, List.forall_mem_cons.mpr ⟨rfl, hnone⟩⟩
      rw [Text.splitAt_append hname, ← hothers, List.nil_append]
  | slashDot _ ih =>
      have hdot : '/' ∉ ['.'] := by decide
      obtain ⟨others, hothers, hnone⟩ := ih hdot
      refine ⟨['.'] :: others, ?_, List.forall_mem_cons.mpr ⟨rfl, hnone⟩⟩
      rw [Text.splitAt_append hname, ← hothers, List.singleton_append]

/-- Of a name with a trail, the name is the only component. -/
theorem IsTrail.filter_splitAt (h : IsTrail trail) (hname : '/' ∉ name)
    (hcomponent : isComponent name = true) :
    (splitAt '/' (name ++ trail)).filter isComponent = [name] := by
  obtain ⟨others, hothers, hnone⟩ := h.exists_splitAt hname
  have hnil : others.filter isComponent = [] := by
    simpa [List.filter_eq_nil_iff] using hnone
  rw [hothers, List.filter_cons, if_pos hcomponent, hnil]

/-- `lastComponent` of a name without slashes is that name. -/
theorem lastComponent_of_not_mem (hname : '/' ∉ name) (hcomponent : isComponent name = true) :
    lastComponent name = name := by
  have hfilter := IsTrail.nil.filter_splitAt hname hcomponent
  rw [List.append_nil] at hfilter
  rw [lastComponent_eq, hfilter]
  rfl

/-- **`lastComponent` of a path** is its last name, whatever `IsTrail` there is behind it. -/
theorem lastComponent_append_trail (h : IsTrail trail) (hname : '/' ∉ name)
    (hcomponent : isComponent name = true) (front : List Char) :
    lastComponent (front ++ '/' :: (name ++ trail)) = name := by
  rw [lastComponent_eq, Text.splitAt_append_separator, List.filter_append,
    h.filter_splitAt hname hcomponent, List.getLastD_concat]

end Paths

/-! ### Soft subtitles -/

/-- What is taken for the suffix: `suffixOf` the `lastComponent`, or else all that is given. -/
def toldSuffix (path : List Char) : List Char :=
  let suffix := suffixOf (lastComponent path)
  if suffix.isEmpty then path else suffix

theorem supportsSoftSubtitles_eq (path : String) :
    supportsSoftSubtitles path = softSubtitleContainers.contains
      (Text.lower (String.ofList ((toldSuffix path.toList).dropWhile (· == '.')))) := rfl

section Told

variable {path suffix : List Char}

theorem toldSuffix_of_eq (h : suffixOf (lastComponent path) = '.' :: suffix) :
    toldSuffix path = '.' :: suffix := by
  simp only [toldSuffix, h, List.isEmpty_cons, Bool.false_eq_true, if_false]

theorem toldSuffix_of_hasNoInnerDot (h : HasNoInnerDot (lastComponent path)) :
    toldSuffix path = path := by
  simp only [toldSuffix, suffixOf_of_hasNoInnerDot h, List.isEmpty_nil, if_true]

/-- `isComponent` holds of a suffix alone, with its dot or without it. -/
theorem IsSuffix.isComponent (h : IsSuffix suffix) :
    isComponent suffix = true ∧ isComponent ('.' :: suffix) = true := by
  have hdot : suffix ≠ ['.'] := by
    rintro rfl
    exact h.no_dot List.mem_cons_self
  exact ⟨by simp [Transcode.isComponent, h.ne_nil, hdot],
    isComponent_append_dot h.ne_nil []⟩

/-- `toldSuffix` of a suffix is the suffix, with its dot or without it. -/
theorem IsSuffix.toldSuffix_self (h : IsSuffix suffix) :
    toldSuffix suffix = suffix ∧ toldSuffix ('.' :: suffix) = '.' :: suffix := by
  obtain ⟨hplain, hdotted⟩ := h.hasNoInnerDot
  obtain ⟨hcomponent, hcomponent'⟩ := h.isComponent
  have hslash : '/' ∉ '.' :: suffix := by simp [h.no_slash]
  rw [← lastComponent_of_not_mem h.no_slash hcomponent] at hplain
  rw [← lastComponent_of_not_mem hslash hcomponent'] at hdotted
  exact ⟨toldSuffix_of_hasNoInnerDot hplain, toldSuffix_of_hasNoInnerDot hdotted⟩

/-- Dots in front of a suffix are dropped. -/
theorem IsSuffix.dropWhile_dots (h : IsSuffix suffix) :
    suffix.dropWhile (· == '.') = suffix ∧ ('.' :: suffix).dropWhile (· == '.') = suffix := by
  obtain ⟨c, rest, rfl⟩ := List.exists_cons_of_ne_nil h.ne_nil
  have hc : c ≠ '.' := fun heq => h.no_dot (heq ▸ List.mem_cons_self)
  simp [hc]

/-- **`supportsSoftSubtitles` goes by the `toldSuffix`**, with its dot or without it. -/
theorem supportsSoftSubtitles_iff {path suffix : String} (h : IsSuffix suffix.toList)
    (htold : toldSuffix path.toList = suffix.toList ∨
      toldSuffix path.toList = '.' :: suffix.toList) :
    supportsSoftSubtitles path = true ↔ Text.lower suffix ∈ softSubtitleContainers := by
  obtain ⟨hplain, hdotted⟩ := h.dropWhile_dots
  have hdrop : (toldSuffix path.toList).dropWhile (· == '.') = suffix.toList := by
    rcases htold with htold | htold
    · rw [htold, hplain]
    · rw [htold, hdotted]
  rw [supportsSoftSubtitles_eq, hdrop, String.ofList_toList, List.contains_iff_mem]

end Told

/-- A slash stays what it is in lower case. -/
theorem slash_mem_lower {text : String} (h : '/' ∈ text.toList) :
    '/' ∈ (Text.lower text).toList := by
  rw [Text.lower, String.toList_ofList]
  refine List.mem_flatMap.mpr ⟨'/', h, ?_⟩
  rw [Text.lowerChar_of_isAscii (by decide)]
  decide

/-- `toldSuffix` of a path with a slash is no path itself. -/
theorem supportsSoftSubtitles_of_told_self {path : String} (hslash : '/' ∈ path.toList)
    (htold : toldSuffix path.toList = path.toList) : supportsSoftSubtitles path = false := by
  have hdrop : '/' ∈ path.toList.dropWhile (· == '.') := by
    have hsplit := List.takeWhile_append_dropWhile (p := (· == '.')) (l := path.toList)
    rw [← hsplit, List.mem_append] at hslash
    refine hslash.resolve_left fun hmem => ?_
    exact absurd (List.all_eq_true.mp List.all_takeWhile _ hmem) (by decide)
  have hlower :
      '/' ∈ (Text.lower (String.ofList (path.toList.dropWhile (· == '.')))).toList :=
    slash_mem_lower (by rwa [String.toList_ofList])
  rw [supportsSoftSubtitles_eq, htold, Bool.eq_false_iff, Ne, List.contains_iff_mem]
  intro hmem
  have hnone : ∀ container ∈ softSubtitleContainers, '/' ∉ container.toList := by decide
  exact hnone _ hmem hlower

/-- **A suffix counts alike however it is given**: alone, with its dot, behind the name of a file,
or at the end of a path, whatever directories the path names and whatever trail it ends in. It is
that of a container for soft subtitles exactly if it is one of their names in lower case. A path
whose last name has no dot inside is that of no such container. -/
theorem supportsSoftSubtitles_alike :
    (∀ suffix stem front trail : String, IsSuffix suffix.toList → stem ≠ "" → '/' ∉ stem.toList →
      IsTrail trail.toList →
        (supportsSoftSubtitles suffix = true ↔ Text.lower suffix ∈ softSubtitleContainers) ∧
        supportsSoftSubtitles ("." ++ suffix) = supportsSoftSubtitles suffix ∧
        supportsSoftSubtitles (stem ++ "." ++ suffix) = supportsSoftSubtitles suffix ∧
        supportsSoftSubtitles (front ++ "/" ++ stem ++ "." ++ suffix ++ trail) =
          supportsSoftSubtitles suffix) ∧
    ∀ path : String, '/' ∈ path.toList → HasNoInnerDot (lastComponent path.toList) →
      supportsSoftSubtitles path = false := by
  refine ⟨fun suffix stem front trail h hstem hslash htrail => ?_, fun path hslash hname =>
    supportsSoftSubtitles_of_told_self hslash (toldSuffix_of_hasNoInnerDot hname)⟩
  have hne : stem.toList ≠ [] := by simpa using hstem
  have hname : '/' ∉ stem.toList ++ '.' :: suffix.toList := by
    simp [hslash, h.no_slash]
  have hcomponent := isComponent_append_dot h.ne_nil stem.toList
  have hsuffix := suffixOf_append_dot h hne
  obtain ⟨hself, hdotted⟩ := h.toldSuffix_self
  have halone : supportsSoftSubtitles suffix = true ↔
      Text.lower suffix ∈ softSubtitleContainers := supportsSoftSubtitles_iff h (.inl hself)
  refine ⟨halone, ?_, ?_, ?_⟩
  all_goals rw [Bool.eq_iff_iff, halone]
  · refine supportsSoftSubtitles_iff h (.inr ?_)
    rwa [String.toList_append]
  · refine supportsSoftSubtitles_iff h (.inr (toldSuffix_of_eq ?_))
    rw [← lastComponent_of_not_mem hname hcomponent] at hsuffix
    simpa using hsuffix
  · refine supportsSoftSubtitles_iff h (.inr (toldSuffix_of_eq ?_))
    rw [← lastComponent_append_trail htrail hname hcomponent front.toList] at hsuffix
    simpa using hsuffix

/-- A suffix in capitals, in a hidden directory with another suffix, with slashes and single dots at
the end of the path; and a directory whose name only begins with a dot. -/
theorem supportsSoftSubtitles_alike_of_hidden :
    supportsSoftSubtitles "MKV" = true ∧ supportsSoftSubtitles ".MKV" = true ∧
      supportsSoftSubtitles "a.b..MKV" = true ∧
      supportsSoftSubtitles "../.d.avi/./a.b..MKV//./" = true ∧
      supportsSoftSubtitles "d.mkv/.mkv/." = false := by
  have hsuffix : IsSuffix "MKV".toList := ⟨by decide, by decide, by decide⟩
  have htrail : IsTrail "//./".toList := .slash (.slashDot (.slash .nil))
  have hname : IsSuffix "mkv".toList := ⟨by decide, by decide, by decide⟩
  have hinner : HasNoInnerDot (lastComponent "d.mkv/.mkv/.".toList) := hname.hasNoInnerDot.2
  have hslash : '/' ∈ "d.mkv/.mkv/.".toList := by decide
  obtain ⟨halike, hnone⟩ := supportsSoftSubtitles_alike
  obtain ⟨halone, hdotted, hnamed, hpath⟩ :=
    halike "MKV" "a.b." "../.d.avi/." "//./" hsuffix (by decide) (by decide) htrail
  have hmkv : supportsSoftSubtitles "MKV" = true := halone.mpr (by decide +kernel)
  rw [hmkv] at hdotted hnamed hpath
  exact ⟨hmkv, hdotted, hnamed, hpath, hnone _ hslash hinner⟩

end Transcode
