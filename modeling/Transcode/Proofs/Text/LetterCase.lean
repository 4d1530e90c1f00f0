import Mathlib.Data.List.Forall2
import Transcode.Text.Case

/-!
# Look-alikes of plain names

A text is looked up among names in plain ASCII letters and digits by its lower case. That is the
lower case of all of Unicode, so there might be texts that are found though they are written in
other letters. The table of lower case tells that there is one such letter: a character beyond ASCII
becomes others of which one is beyond ASCII again, but for the Kelvin sign, which becomes `k`. The
capital I with a dot becomes a plain `i`, but with a combining dot behind it.

So a name without a `k` is the lower case of exactly those texts that are as long as it is and agree
with it character by character, up to the case of ASCII letters.

## Main definitions

* `IsAscii`, `IsDistinctive` — characters of ASCII, and those that names may be made of;
* `SameLetter`, `SpelledLike` — agreement up to the case of ASCII letters;
* `CaseRun.IsForeign` — letters that become letters beyond ASCII.

## Main results

* `lowerRuns_cases` — the runs of the table of lower case;
* `lowerChar_of_isAscii`, `exists_mem_lowerChar` — what one character becomes;
* `lower_eq_iff` — the texts whose lower case is a name.
-/

namespace Transcode.Text

/-- The characters of ASCII. -/
def IsAscii (c : Char) : Prop :=
  c.toNat < 0x80

instance (c : Char) : Decidable (IsAscii c) :=
  inferInstanceAs (Decidable (_ < _))

/-- The characters that plain names are made of: small letters, digits and the like, but no `k`. -/
def IsDistinctive (c : Char) : Prop :=
  IsAscii c ∧ c.toLower = c ∧ c ≠ 'k'

instance (c : Char) : Decidable (IsDistinctive c) :=
  inferInstanceAs (Decidable (_ ∧ _ ∧ _))

/-- Two characters are the same up to the case of ASCII letters. -/
def SameLetter (c d : Char) : Prop :=
  c.toLower = d.toLower

/-- A text is as long as a name and agrees with it character by character, up to the case of ASCII
letters. -/
def SpelledLike (text name : String) : Prop :=
  List.Forall₂ SameLetter text.toList name.toList

variable {c d : Char}

/-! ### ASCII letters -/

/-- `toLower` makes no difference beyond ASCII. -/
theorem toLower_of_not_isAscii (h : ¬IsAscii c) : c.toLower = c := by
  delta Char.toLower
  rw [dif_neg]
  rintro ⟨-, hlast⟩
  have hcode : c.toNat ≤ 'Z'.toNat := UInt32.le_iff_toNat_le.mp hlast
  exact h (Nat.lt_of_le_of_lt hcode (by decide))

/-- Letters and digits are such in either case. -/
theorem isAlphanum_of_toLower (h : c.toLower.isAlphanum = true) : c.isAlphanum = true := by
  delta Char.toLower at h
  split at h
  next hupper =>
    have hletter : c.isUpper = true := decide_eq_true hupper
    show ((c.isUpper || c.isLower) || c.isDigit) = true
    rw [hletter]
    rfl
  next => exact h

/-! ### The table -/

/-- The run of the capital letters of ASCII. -/
def asciiRun : CaseRun := ⟨0x41, 0x5a, 1, 0x61⟩

/-- The run of the Kelvin sign. -/
def kelvinRun : CaseRun := ⟨0x212a, 0x212a, 1, 0x6b⟩

/-- The letters of a run become characters beyond ASCII. -/
def CaseRun.IsForeign (r : CaseRun) : Prop :=
  0x80 ≤ r.image ∧
    (r.image + (r.last - r.first) < 0xD800 ∨
      0xE000 ≤ r.image ∧ r.image + (r.last - r.first) < 0x110000)

instance (r : CaseRun) : Decidable r.IsForeign :=
  inferInstanceAs (Decidable (_ ∧ (_ ∨ _ ∧ _)))

/-- `lowerRuns` make letters beyond ASCII of all letters, but for the capital letters of ASCII and
the Kelvin sign. -/
theorem lowerRuns_cases : ∀ r ∈ lowerRuns, r = asciiRun ∨ r = kelvinRun ∨ r.IsForeign := by
  decide +kernel

/-- A run covers what lies between its ends. -/
theorem CaseRun.bounds_of_covers {r : CaseRun} {n : Nat} (h : r.covers n = true) :
    r.first ≤ n ∧ n ≤ r.last := by
  rw [covers, Bool.and_eq_true, Bool.and_eq_true] at h
  exact ⟨of_decide_eq_true h.1.1, of_decide_eq_true h.1.2⟩

/-- `CaseRun.IsForeign` holds of a run only if its letters become characters beyond ASCII. -/
theorem CaseRun.IsForeign.not_isAscii {r : CaseRun} (h : r.IsForeign) {n : Nat}
    (hn : r.covers n = true) : ¬IsAscii (r.apply n) := by
  obtain ⟨hfirst, hlast⟩ := bounds_of_covers hn
  obtain ⟨himage, hvalid⟩ := h
  have hcode : (n - r.first + r.image).isValidChar := by
    unfold Nat.isValidChar
    omega
  have happly : (r.apply n).toNat = n - r.first + r.image := by
    rw [apply, Char.ofNat, dif_pos hcode]
    rfl
  rw [IsAscii, happly]
  omega

/-! ### One character -/

/-- `lowerChar` of a character of ASCII is its lower case among ASCII letters. -/
theorem lowerChar_of_isAscii (h : IsAscii c) : lowerChar c = [c.toLower] := by
  have hall : ∀ n < 0x80, lowerChar (Char.ofNat n) = [(Char.ofNat n).toLower] := by decide +kernel
  have hc := hall c.toNat h
  rwa [Char.ofNat_toNat] at hc

/-- **`lowerChar` of a character beyond ASCII** has a `k` or a character beyond ASCII. -/
theorem exists_mem_lowerChar (h : ¬IsAscii c) : ∃ d ∈ lowerChar c, d = 'k' ∨ ¬IsAscii d := by
  rw [lowerChar]
  split
  next => exact ⟨Char.ofNat 0x307, by simp, .inr (by decide)⟩
  next =>
    refine ⟨_, List.mem_singleton_self _, ?_⟩
    rw [changeCase]
    split
    next r hfind =>
      have hcovers := List.find?_some hfind
      obtain ⟨hfirst, hlast⟩ := CaseRun.bounds_of_covers hcovers
      obtain rfl | rfl | hforeign := lowerRuns_cases r (List.mem_of_find?_eq_some hfind)
      · exact absurd (Nat.lt_of_le_of_lt hlast (by decide)) h
      · left
        rw [Nat.le_antisymm hlast hfirst]
        rfl
      · exact .inr (hforeign.not_isAscii hcovers)
    next => exact .inr h

/-- `lowerChar` of a character that is the `SameLetter` as one of a name is that one. -/
theorem lowerChar_of_sameLetter (hd : IsDistinctive d) (h : SameLetter c d) :
    lowerChar c = [d] := by
  obtain ⟨hascii, hlower, -⟩ := hd
  have hc : c.toLower = d := h.trans hlower
  have hplain : IsAscii c := by
    by_contra hout
    rw [toLower_of_not_isAscii hout] at hc
    exact hout (hc ▸ hascii)
  rw [lowerChar_of_isAscii hplain, hc]

/-! ### Whole texts -/

/-- A text with a lower case of distinctive characters is one of ASCII. -/
theorem isAscii_of_mem_of_lower {cs ds : List Char} (h : cs.flatMap lowerChar = ds)
    (hds : ∀ d ∈ ds, IsDistinctive d) : ∀ c ∈ cs, IsAscii c := by
  intro c hc
  by_contra hout
  obtain ⟨d, hd, hcases⟩ := exists_mem_lowerChar hout
  obtain ⟨hascii, -, hne⟩ := hds d (h ▸ List.mem_flatMap.mpr ⟨c, hc, hd⟩)
  rcases hcases with hk | hforeign
  · exact hne hk
  · exact hforeign hascii

/-- `lowerChar` makes a name of characters exactly if each is the `SameLetter` as that of the name.
-/
theorem flatMap_lowerChar_eq_iff {cs ds : List Char} (h : ∀ d ∈ ds, IsDistinctive d) :
    cs.flatMap lowerChar = ds ↔ List.Forall₂ SameLetter cs ds := by
  constructor
  · intro heq
    have hascii := isAscii_of_mem_of_lower heq h
    have hmap : cs.flatMap lowerChar = cs.map Char.toLower := by
      rw [List.map_eq_flatMap]
      exact List.flatMap_congr fun c hc => lowerChar_of_isAscii (hascii c hc)
    rw [← heq, hmap] at h ⊢
    rw [List.forall₂_map_right_iff, List.forall₂_same]
    exact fun c hc => (h _ (List.mem_map_of_mem hc)).2.1.symm
  · intro hspelled
    induction hspelled with
    | nil => rfl
    | cons hcd _ ih =>
        rw [List.flatMap_cons, ih fun d hd => h d (List.mem_cons_of_mem _ hd),
          lowerChar_of_sameLetter (h _ List.mem_cons_self) hcd]
        rfl

/-- **`lower` makes a plain name of a text** exactly if the text is `SpelledLike` the name. -/
theorem lower_eq_iff {text name : String} (h : ∀ d ∈ name.toList, IsDistinctive d) :
    lower text = name ↔ SpelledLike text name := by
  rw [lower, ← String.toList_inj, String.toList_ofList]
  exact flatMap_lowerChar_eq_iff h

/-- A text that is `SpelledLike` a name of letters and digits has no other characters itself. -/
theorem SpelledLike.isAlphanum {text name : String} (h : SpelledLike text name)
    (hname : ∀ d ∈ name.toList, d.toLower.isAlphanum = true) :
    ∀ c ∈ text.toList, c.isAlphanum = true := by
  rw [SpelledLike] at h
  generalize text.toList = cs at h ⊢
  generalize name.toList = ds at h hname
  induction h with
  | nil => exact fun c hc => absurd hc List.not_mem_nil
  | cons hcd _ ih =>
      rw [List.forall_mem_cons] at hname ⊢
      exact ⟨isAlphanum_of_toLower (hcd ▸ hname.1), ih hname.2⟩

end Transcode.Text
