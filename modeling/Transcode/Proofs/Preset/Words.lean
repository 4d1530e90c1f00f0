import Mathlib.Data.List.Perm.Basic
import Transcode.Preset.Parser
import Transcode.Proofs.Text.Pieces

/-!
# The words of a preset text

A preset text is read in two ways: `isTokenForm` looks at its characters one after another, and
`Preset.words` cuts it at its hyphens. This module shows that the two readings agree, and follows
the words from there: each names at most one member, and reading them all is collecting a list of
members with at most one for each axis, in whatever order.

## Main results

* `isTokenForm_iff` — a text has the form exactly if each of its pieces is a word;
* `Member.find?_eq_some_iff` — a word names the member whose name it is in lower case;
* `Preset.Named.addWords_eq_ok_iff` — what has been named after some words is what had been named
  before with the members that the words name, and it fits as long as no axis has two.
-/

namespace Transcode

/-! ### The form of the text -/

/-- Characters that make up a word. -/
def IsWordPiece (piece : List Char) : Prop :=
  piece ≠ [] ∧ ∀ c ∈ piece, Text.isWord c = true

/-- A character in front leaves the rest of its piece, which may be empty. -/
theorem isWordPiece_cons {c : Char} {piece : List Char} :
    IsWordPiece (c :: piece) ↔ Text.isWord c = true ∧ ∀ d ∈ piece, Text.isWord d = true := by
  simp [IsWordPiece]

/-- `isTokenTail` holds after the first character if the first piece, which may be empty, goes on
with it, and the others are words. The induction is along the recursion of `isTokenTail`. -/
theorem isTokenTail_iff {cs piece : List Char} {pieces : List (List Char)}
    (h : Text.splitAt '-' cs = piece :: pieces) :
    isTokenTail cs = true ↔
      (∀ c ∈ piece, Text.isWord c = true) ∧ ∀ p ∈ pieces, IsWordPiece p := by
  induction cs using isTokenTail.induct generalizing piece pieces with
  | case1 =>
      obtain ⟨rfl, rfl⟩ : [] = piece ∧ [] = pieces := by simpa [Text.splitAt] using h
      simp [isTokenTail]
  | case2 =>
      obtain ⟨rfl, rfl⟩ : [] = piece ∧ [[]] = pieces := by simpa [Text.splitAt] using h
      simp [isTokenTail, IsWordPiece]
  | case3 c rest ih =>
      rw [Text.splitAt_cons_self] at h
      obtain ⟨rfl, rfl⟩ := List.cons.inj h
      rw [isTokenTail, Bool.and_eq_true]
      by_cases hc : c = '-'
      · subst hc
        simp [Text.not_isWord_hyphen, Text.splitAt_cons_self, IsWordPiece]
      · obtain ⟨first, others, hs⟩ := Text.exists_splitAt_eq_cons '-' rest
        rw [ih hs, Text.splitAt_cons_of_ne hc hs, List.forall_mem_cons, isWordPiece_cons]
        simp [and_assoc]
  | case4 c rest hlone hpair ih =>
      rw [isTokenTail, Bool.and_eq_true]
      · by_cases hc : c = '-'
        · subst hc
          cases rest with
          | nil => exact absurd rfl (hlone rfl)
          | cons next others => exact absurd rfl (hpair next others rfl)
        · obtain ⟨first, others, hs⟩ := Text.exists_splitAt_eq_cons '-' rest
          rw [Text.splitAt_cons_of_ne hc hs] at h
          obtain ⟨rfl, rfl⟩ := List.cons.inj h
          rw [ih hs, List.forall_mem_cons, and_assoc]
      · exact hlone
      · exact hpair

/-- `isTokenForm` holds of a text exactly if each of its pieces is a word. -/
theorem isTokenForm_iff (cs : List Char) :
    isTokenForm cs = true ↔ ∀ piece ∈ Text.splitAt '-' cs, IsWordPiece piece := by
  cases cs with
  | nil => simp [isTokenForm, Text.splitAt, IsWordPiece]
  | cons c rest =>
      rw [isTokenForm, Bool.and_eq_true]
      by_cases hc : c = '-'
      · subst hc
        simp [Text.not_isWord_hyphen, Text.splitAt_cons_self, IsWordPiece]
      · obtain ⟨first, others, hs⟩ := Text.exists_splitAt_eq_cons '-' rest
        rw [isTokenTail_iff hs, Text.splitAt_cons_of_ne hc hs, List.forall_mem_cons,
          isWordPiece_cons, and_assoc]

/-! ### Members by their names -/

namespace Member

/-- A member is found under its canonical name, and no other one is before it. -/
theorem findSome?_name (m : Member) :
    (Axis.all.findSome? fun axis => axis.members.find? fun member => member.name == m.name) =
      some m := by
  rcases m with c | a | q
  · cases c <;> decide
  · cases a <;> decide
  · cases q <;> decide

/-- `Member.find?` finds the member whose name a word is in lower case. -/
theorem find?_eq_some_iff {word : String} {m : Member} :
    Member.find? word = some m ↔ m.name = Text.lower word := by
  constructor
  · intro h
    obtain ⟨axis, -, hfind⟩ := List.exists_of_findSome?_eq_some h
    rw [Axis.find?, findNamed] at hfind
    have hname := List.find?_some hfind
    exact eq_of_beq hname
  · intro h
    have hm := findSome?_name m
    rw [h] at hm
    exact hm

/-- `Member.name` is not the same for two members. -/
theorem name_injective {m n : Member} (h : m.name = n.name) : m = n := by
  have hm := findSome?_name m
  rw [h, findSome?_name n] at hm
  exact (Option.some.inj hm).symm

end Member

namespace Preset.Named

/-! ### What has been named -/

/-- What has been `Named` is known from the set of its members. -/
theorem eq_of_mem_members_iff {n n' : Named} (h : ∀ m, m ∈ n.members ↔ m ∈ n'.members) :
    n = n' := by
  have hcodec : n.codec = n'.codec := Option.ext fun c => by
    simpa [members] using h (.codec c)
  have haccelerator : n.accelerator = n'.accelerator := Option.ext fun a => by
    simpa [members] using h (.accelerator a)
  have hquality : n.quality = n'.quality := Option.ext fun q => by
    simpa [members] using h (.quality q)
  cases n
  cases n'
  simp_all

/-- So it is known from its members in whatever order. -/
theorem eq_of_members_perm {n n' : Named} (h : n.members.Perm n'.members) : n = n' :=
  eq_of_mem_members_iff fun _ => h.mem_iff

/-- `Named.members` has at most one member of each axis. -/
theorem countP_axis_members_le_one (n : Named) (axis : Axis) :
    n.members.countP (·.axis = axis) ≤ 1 := by
  rcases n with ⟨_ | c, _ | a, _ | q⟩ <;> cases axis <;> simp [members, Member.axis]

/-- `add` gives one member more. -/
theorem members_of_add {n n' : Named} {m : Member} (h : n.add m = .ok n') :
    n'.members.Perm (m :: n.members) := by
  cases m with
  | codec c =>
      cases hn : n.codec with
      | some first => simp [add, hn] at h
      | none =>
          obtain rfl : { n with codec := some c } = n' := by simpa [add, hn] using h
          simp [members, hn]
  | accelerator a =>
      cases hn : n.accelerator with
      | some first => simp [add, hn] at h
      | none =>
          obtain rfl : { n with accelerator := some a } = n' := by simpa [add, hn] using h
          simp [members, hn]
  | quality q =>
      cases hn : n.quality with
      | some first => simp [add, hn] at h
      | none =>
          obtain rfl : { n with quality := some q } = n' := by simpa [add, hn] using h
          simp only [members, hn, Option.map_some, Option.map_none, Option.toList_some,
            Option.toList_none, List.append_nil]
          exact List.perm_append_singleton _ _

/-- `add` refuses a member only where its axis has one. -/
theorem one_le_countP_of_add_eq_error {n : Named} {m : Member} {e : PresetError}
    (h : n.add m = .error e) : 1 ≤ n.members.countP (·.axis = m.axis) := by
  rw [Nat.one_le_iff_ne_zero, Ne, List.countP_eq_zero]
  intro hnone
  cases m with
  | codec c =>
      cases hn : n.codec with
      | none => simp [add, hn] at h
      | some first => exact hnone (.codec first) (by simp [members, hn]) (by simp [Member.axis])
  | accelerator a =>
      cases hn : n.accelerator with
      | none => simp [add, hn] at h
      | some first =>
          exact hnone (.accelerator first) (by simp [members, hn]) (by simp [Member.axis])
  | quality q =>
      cases hn : n.quality with
      | none => simp [add, hn] at h
      | some first => exact hnone (.quality first) (by simp [members, hn]) (by simp [Member.axis])

/-- `add` takes a member as long as it fits beside the others: a second one of its axis would make
two. -/
theorem exists_add_eq_ok {n n' : Named} {m : Member} {ms : List Member}
    (h : n'.members.Perm (m :: ms ++ n.members)) : ∃ added, n.add m = .ok added := by
  cases hadd : n.add m with
  | ok added => exact ⟨added, rfl⟩
  | error e =>
      have hold := one_le_countP_of_add_eq_error hadd
      have hnew := countP_axis_members_le_one n' m.axis
      rw [h.countP_eq, List.countP_append, List.countP_cons_of_pos (by simp)] at hnew
      omega

/-! ### Reading the words -/

/-- `addWords` succeeds exactly with what has the members that the words name beside those that had
been named before. The induction is on the words. -/
theorem addWords_eq_ok_iff {text : String} {n n' : Named} {words : List String} :
    addWords text n words = .ok n' ↔
      ∃ ms : List Member, ms.map Member.name = words.map Text.lower ∧
        n'.members.Perm (ms ++ n.members) := by
  induction words generalizing n with
  | nil =>
      constructor
      · rintro ⟨⟩
        exact ⟨[], rfl, List.Perm.refl _⟩
      · rintro ⟨ms, hnames, hperm⟩
        obtain rfl : ms = [] := by simpa using hnames
        rw [addWords, eq_of_members_perm hperm]
  | cons word rest ih =>
      constructor
      · intro h
        cases hfind : Member.find? word with
        | none => simp [addWords, hfind] at h
        | some m =>
            cases hadd : n.add m with
            | error e => simp [addWords, hfind, hadd] at h
            | ok added =>
                simp only [addWords, hfind, hadd] at h
                obtain ⟨ms, hnames, hperm⟩ := ih.mp h
                refine ⟨m :: ms, ?_, ?_⟩
                · rw [List.map_cons, List.map_cons, hnames, Member.find?_eq_some_iff.mp hfind]
                · refine hperm.trans ?_
                  exact ((members_of_add hadd).append_left ms).trans List.perm_middle
      · rintro ⟨ms, hnames, hperm⟩
        cases ms with
        | nil => simp at hnames
        | cons m ms =>
            rw [List.map_cons, List.map_cons, List.cons.injEq] at hnames
            have hfind : Member.find? word = some m := Member.find?_eq_some_iff.mpr hnames.1
            obtain ⟨added, hadd⟩ := exists_add_eq_ok hperm
            simp only [addWords, hfind, hadd]
            refine ih.mpr ⟨ms, hnames.2, hperm.trans ?_⟩
            exact List.perm_middle.symm.trans ((members_of_add hadd).symm.append_left ms)

end Preset.Named

end Transcode
