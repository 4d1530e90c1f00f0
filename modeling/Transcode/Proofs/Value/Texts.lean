import Transcode.Proofs.Value.Escapes

/-!
# Texts as they are spelled

Between its quotes a text is spelled sign by sign. A character stands for itself, unless it is a
quote, a backslash or a control character; a backslash and a letter stand for a character; and a
backslash with a `u` and four digits, of either case, stands for the sign with that code. Then a
high half and a low half next to each other are joined to one character. A half that has no other
half stays a half.

The reader joins halves as it goes, since it looks ahead from each high half. What it gives is what
the spelling gives, sign by sign and joined afterwards.

## Main definitions

* `SpellsSigns` — the signs that are spelled up to a closing quote, one for each escape;
* `joinHalves` — the text of such signs.

## Main results

* `exists_readSigns_of_spells` — what is spelled is read, by induction on its length;
* `exists_spells_of_readSigns` — what is read is spelled, in the same way.
-/

namespace Transcode.Value

open Text (hexValue?)

/-- The characters spell the signs one by one, and then a closing quote, behind which `rest` stands.
Two halves next to each other stay apart here. -/
inductive SpellsSigns : List Char → Text → List Char → Prop where
  | close {rest : List Char} : SpellsSigns ('"' :: rest) [] rest
  | plain {c : Char} {cs rest : List Char} {signs : Text} (hquote : c ≠ '"') (hslash : c ≠ '\\')
      (hlow : 0x20 ≤ c.toNat) (hsigns : SpellsSigns cs signs rest) :
      SpellsSigns (c :: cs) (.char c :: signs) rest
  | letter {e c : Char} {cs rest : List Char} {signs : Text} (hescape : simpleEscape? e = some c)
      (hsigns : SpellsSigns cs signs rest) : SpellsSigns ('\\' :: e :: cs) (.char c :: signs) rest
  | code {a b c d : Char} {n : Nat} {cs rest : List Char} {signs : Text}
      (hdigits : hex4? a b c d = some n) (hsigns : SpellsSigns cs signs rest) :
      SpellsSigns ('\\' :: 'u' :: a :: b :: c :: d :: cs) (.ofCode n :: signs) rest

/-- A low half and the high half before it are joined to a character. -/
def joinHalves : Text → Text
  | s :: t :: rest =>
    if isHighHalf s.code && isLowHalf t.code then
      .char (charOfHalves s.code t.code) :: joinHalves rest
    else s :: joinHalves (t :: rest)
  | signs => signs

variable {cs rest : List Char} {signs : Text}

/-! ### Joining -/

/-- The first of some signs is a low half. -/
def StartsLow (signs : Text) : Prop :=
  ∃ t more, signs = t :: more ∧ isLowHalf t.code = true

/-- `joinHalves` keeps a sign unless it is a high half with a low half behind it. -/
theorem joinHalves_cons {s : Sign} (h : isHighHalf s.code = true → ¬StartsLow signs) :
    joinHalves (s :: signs) = s :: joinHalves signs := by
  cases signs with
  | nil => rfl
  | cons t more =>
      rw [joinHalves, if_neg]
      intro hboth
      rw [Bool.and_eq_true] at hboth
      exact h hboth.1 ⟨t, more, rfl, hboth.2⟩

theorem joinHalves_char (c : Char) (signs : Text) :
    joinHalves (.char c :: signs) = .char c :: joinHalves signs := by
  refine joinHalves_cons fun h => ?_
  rw [Sign.code, isHighHalf_toNat] at h
  cases h

/-! ### Codes of four digits -/

/-- `hexValue?` gives a value below 16. -/
theorem hexValue?_lt {c : Char} {n : Nat} (h : hexValue? c = some n) : n < 16 := by
  have h0 : ('0' : Char).toNat = 48 := rfl
  have h9 : ('9' : Char).toNat = 57 := rfl
  have ha : ('a' : Char).toNat = 97 := rfl
  have hf : ('f' : Char).toNat = 102 := rfl
  have hA : ('A' : Char).toNat = 65 := rfl
  have hF : ('F' : Char).toNat = 70 := rfl
  simp only [hexValue?, Char.le_def, UInt32.le_iff_toNat_le, Char.toNat_val] at h
  split at h
  next => cases h; omega
  next =>
    split at h
    next => cases h; omega
    next =>
      split at h
      next => cases h; omega
      next => cases h

theorem hex4?_lt {a b c d : Char} {n : Nat} (h : hex4? a b c d = some n) : n < 0x10000 := by
  unfold hex4? at h
  split at h
  next p q r s hp hq hr hs =>
    cases h
    have := hexValue?_lt hp
    have := hexValue?_lt hq
    have := hexValue?_lt hr
    have := hexValue?_lt hs
    omega
  next => cases h

/-- `Sign.code` of `Sign.ofCode`, for a code of four digits. -/
theorem code_ofCode {n : Nat} (h : n < 0x10000) : (Sign.ofCode n).code = n := by
  unfold Sign.ofCode
  split
  next hhalf =>
    simp only [Sign.code]
    omega
  next hchar =>
    have hvalid : n.isValidChar := by
      unfold Nat.isValidChar
      omega
    rw [Sign.code, Char.ofNat, dif_pos hvalid]
    rfl

/-- `joinHalves` joins two halves next to each other. -/
theorem joinHalves_of_halves {high low : Nat} (hhigh : isHighHalf high = true)
    (hlow : isLowHalf low = true) (signs : Text) :
    joinHalves (.ofCode high :: .ofCode low :: signs) =
      .char (charOfHalves high low) :: joinHalves signs := by
  have hcodes : high < 0x10000 ∧ low < 0x10000 := by
    simp only [isHighHalf, isLowHalf, Bool.and_eq_true, decide_eq_true_eq] at hhigh hlow
    omega
  rw [joinHalves, code_ofCode hcodes.1, code_ofCode hcodes.2, hhigh, hlow]
  rfl

/-! ### Escapes -/

/-- `SpellsSigns` spells no signs with nothing: the closing quote is there. -/
theorem SpellsSigns.ne_nil (h : SpellsSigns cs signs rest) : cs ≠ [] := by
  cases h <;> exact List.cons_ne_nil _ _

/-- The code of a character is no low half. -/
theorem isLowHalf_toNat (c : Char) : isLowHalf c.toNat = false := by
  have hvalid : c.toNat < 0xD800 ∨ 0xDFFF < c.toNat ∧ c.toNat < 0x110000 := c.valid
  simp only [isLowHalf, Bool.and_eq_false_iff, decide_eq_false_iff_not]
  omega

/-- Where `SpellsSigns` spells an escape by code, the first sign is that of `hex4?`. -/
theorem SpellsSigns.exists_of_code {a b c d : Char}
    (h : SpellsSigns ('\\' :: 'u' :: a :: b :: c :: d :: cs) signs rest) :
    ∃ n more, hex4? a b c d = some n ∧ signs = .ofCode n :: more ∧ SpellsSigns cs more rest := by
  cases h with
  | plain _ hslash => exact absurd rfl hslash
  | letter hescape => cases hescape
  | code hdigits hsigns => exact ⟨_, _, hdigits, rfl, hsigns⟩

/-- A low half can only be spelled by an escape by code. -/
theorem SpellsSigns.exists_code_of_low (h : SpellsSigns cs signs rest) (hlow : StartsLow signs) :
    ∃ a b c d n more behind, cs = '\\' :: 'u' :: a :: b :: c :: d :: behind ∧
      hex4? a b c d = some n ∧ isLowHalf n = true ∧ signs = .ofCode n :: more ∧
      SpellsSigns behind more rest := by
  obtain ⟨t, more, rfl, ht⟩ := hlow
  have hchar (c : Char) : isLowHalf (Sign.char c).code ≠ true := by
    rw [Sign.code, isLowHalf_toNat]
    exact Bool.false_ne_true
  cases h with
  | plain => exact absurd ht (hchar _)
  | letter => exact absurd ht (hchar _)
  | code hdigits hsigns =>
      rw [code_ofCode (hex4?_lt hdigits)] at ht
      exact ⟨_, _, _, _, _, _, _, rfl, hdigits, ht, rfl, hsigns⟩

/-- `readCode` reads any sign alone, except a high half with a low half behind it. -/
theorem readCode_of_spells {a b c d : Char} {n : Nat} (hdigits : hex4? a b c d = some n)
    (hsigns : SpellsSigns cs signs rest) (halone : isHighHalf n = true → ¬StartsLow signs)
    (i : Nat) : readCode i (a :: b :: c :: d :: cs) = .ok (.ofCode n, false) := by
  obtain ⟨next, more, rfl⟩ := List.exists_cons_of_ne_nil hsigns.ne_nil
  rw [readCode, hdigits]
  dsimp only
  split
  next hhigh =>
    split
    next heq _ =>
      obtain ⟨low, more, hcode, rfl, -⟩ := (heq ▸ hsigns).exists_of_code
      have hlow : ¬isLowHalf low = true := fun hlow =>
        halone hhigh ⟨_, _, rfl, by rwa [code_ofCode (hex4?_lt hcode)]⟩
      rw [hcode]
      dsimp only
      rw [if_neg hlow]
    next => rfl
  next => rfl

/-- What `readCode` gives: one sign, or the character of two halves. -/
theorem readCode_cases {i : Nat} {s : Sign} {pair : Bool} (h : readCode i cs = .ok (s, pair)) :
    ∃ a b c d n behind, cs = a :: b :: c :: d :: behind ∧ hex4? a b c d = some n ∧
      ((pair = false ∧ s = .ofCode n) ∨
        ∃ e f g h low more, pair = true ∧ s = .char (charOfHalves n low) ∧
          isHighHalf n = true ∧ isLowHalf low = true ∧ hex4? e f g h = some low ∧
          behind = '\\' :: 'u' :: e :: f :: g :: h :: more) := by
  unfold readCode at h
  split at h
  next a b c d next more =>
    split at h
    next => cases h
    next n hdigits =>
      refine ⟨a, b, c, d, n, next :: more, rfl, hdigits, ?_⟩
      split at h
      next hhigh =>
        split at h
        next heq _ =>
          split at h
          next => cases h
          next low hlow =>
            split at h
            next hislow =>
              cases h
              exact .inr ⟨_, _, _, _, low, _, rfl, rfl, hhigh, hislow, hlow, heq⟩
            next =>
              cases h
              exact .inl ⟨rfl, rfl⟩
        next =>
          cases h
          exact .inl ⟨rfl, rfl⟩
      next =>
        cases h
        exact .inl ⟨rfl, rfl⟩
  next => cases h

/-! ### What is spelled is read -/

/-- **The signs of a text are read and joined**: `readSigns` gives `joinHalves` of what
`SpellsSigns` spells, up to the closing quote. -/
theorem exists_readSigns_of_spells (h : SpellsSigns cs signs rest) (start i : Nat) :
    ∃ j, readSigns start 0 i cs = .ok (joinHalves signs, j, rest) := by
  -- by length, since the second of two halves is read with the first one
  induction hn : cs.length using Nat.strongRecOn generalizing cs signs i with
  | _ n ih =>
      subst hn
      cases h with
      | close => exact ⟨i + 1, by rw [readSigns]; rfl⟩
      | plain hquote hslash hlow hsigns =>
          obtain ⟨j, hj⟩ := ih _ (by simp only [List.length_cons]; omega) hsigns (i + 1) rfl
          exact ⟨j, by rw [readSigns_self hquote hslash hlow, hj, cons, joinHalves_char]⟩
      | @letter e _ _ _ _ hescape hsigns =>
          have hu : e ≠ 'u' := by
            rintro rfl
            cases hescape
          obtain ⟨j, hj⟩ := ih _ (by simp only [List.length_cons]; omega) hsigns (i + 2) rfl
          exact ⟨j, by rw [readSigns_simpleEscape hu hescape, hj, cons, joinHalves_char]⟩
      | @code a b c d code more _ signs hdigits hsigns =>
          by_cases hpair : isHighHalf code = true ∧ StartsLow signs
          · obtain ⟨hhigh, hlow⟩ := hpair
            obtain ⟨e, f, g, h, low, signs, behind, rfl, hcode, hislow, rfl, hbehind⟩ :=
              hsigns.exists_code_of_low hlow
            obtain ⟨j, hj⟩ := ih _ (by simp only [List.length_cons]; omega) hbehind (i + 12) rfl
            have hread := readSigns_of_readCode [a, b, c, d, '\\', 'u', e, f, g, h]
              (readCode_of_halves hdigits hcode hhigh hislow hbehind.ne_nil (i + 1)) rfl start
            refine ⟨j, hread.trans ?_⟩
            rw [joinHalves_of_halves hhigh hislow]
            exact congrArg (cons _) hj
          · have halone : isHighHalf code = true → ¬StartsLow signs := fun hhigh hlow =>
              hpair ⟨hhigh, hlow⟩
            have hread := readSigns_of_readCode [a, b, c, d]
              (readCode_of_spells hdigits hsigns halone (i + 1)) rfl start
            obtain ⟨j, hj⟩ := ih _ (by simp only [List.length_cons]; omega) hsigns (i + 6) rfl
            refine ⟨j, hread.trans ?_⟩
            rw [joinHalves_cons (by rwa [code_ofCode (hex4?_lt hdigits)])]
            exact congrArg (cons _) hj

/-! ### What is read is spelled -/

/-- What `cons` gives has its sign in front. -/
theorem exists_of_cons {s : Sign} {piece : Piece Text} {t : Text} {j : Nat}
    (h : cons s piece = .ok (t, j, rest)) :
    ∃ more, t = s :: more ∧ piece = .ok (more, j, rest) := by
  cases piece with
  | error fault => cases h
  | ok found =>
      cases h
      exact ⟨_, rfl, rfl⟩

/-- A high half that `readCode` gives alone has no low half behind it. -/
theorem not_startsLow_of_readCode {i : Nat} {a b c d : Char} {n : Nat} {s : Sign}
    (hcode : readCode i (a :: b :: c :: d :: cs) = .ok (s, false))
    (hdigits : hex4? a b c d = some n) (hsigns : SpellsSigns cs signs rest)
    (hhigh : isHighHalf n = true) : ¬StartsLow signs := by
  intro hlow
  obtain ⟨e, f, g, h, low, more, behind, rfl, hdigits', hislow, rfl, hbehind⟩ :=
    hsigns.exists_code_of_low hlow
  rw [readCode_of_halves hdigits hdigits' hhigh hislow hbehind.ne_nil] at hcode
  cases hcode

/-- **What is read up to a closing quote is spelled**: what `readSigns` gives is `joinHalves` of
some signs with `SpellsSigns`. -/
theorem exists_spells_of_readSigns {start i j : Nat} {t : Text}
    (h : readSigns start 0 i cs = .ok (t, j, rest)) :
    ∃ signs, SpellsSigns cs signs rest ∧ t = joinHalves signs := by
  induction hn : cs.length using Nat.strongRecOn generalizing cs t i with
  | _ n ih =>
      subst hn
      unfold readSigns at h
      split at h
      next => cases h
      next heq => cases heq
      next =>
        cases h
        exact ⟨[], .close, rfl⟩
      next i _ _ _ cs _ =>
        split at h
        next => cases h
        next more =>
          split at h
          next => cases h
          next s pair hcode =>
            obtain ⟨t, rfl, hrest⟩ := exists_of_cons h
            obtain ⟨a, b, c, d, code, behind, rfl, hdigits, ⟨rfl, rfl⟩ | hhalves⟩ :=
              readCode_cases hcode
            · have hskip := readSigns_skip start (i + 1) ['u', a, b, c, d] behind
              obtain ⟨signs, hsigns, rfl⟩ :=
                ih _ (by simp only [List.length_cons]; omega) (hskip.symm.trans hrest) rfl
              refine ⟨_, .code hdigits hsigns, (joinHalves_cons fun hhigh => ?_).symm⟩
              rw [code_ofCode (hex4?_lt hdigits)] at hhigh
              exact not_startsLow_of_readCode hcode hdigits hsigns hhigh
            · obtain ⟨e, f, g, k, low, more, rfl, rfl, hhigh, hlow, hdigits', rfl⟩ := hhalves
              have hskip := readSigns_skip start (i + 1)
                ['u', a, b, c, d, '\\', 'u', e, f, g, k] more
              obtain ⟨signs, hsigns, rfl⟩ :=
                ih _ (by simp only [List.length_cons]; omega) (hskip.symm.trans hrest) rfl
              exact ⟨_, .code hdigits (.code hdigits' hsigns),
                (joinHalves_of_halves hhigh hlow signs).symm⟩
        next e more hu =>
          split at h
          next => cases h
          next c hescape =>
            obtain ⟨t, rfl, hrest⟩ := exists_of_cons h
            have hskip := readSigns_skip start (i + 1) [e] more
            obtain ⟨signs, hsigns, rfl⟩ :=
              ih _ (by simp only [List.length_cons]; omega) (hskip.symm.trans hrest) rfl
            exact ⟨_, .letter hescape hsigns, (joinHalves_char c signs).symm⟩
      next c cs hquote hslash _ =>
        split at h
        next => cases h
        next hlow =>
          obtain ⟨t, rfl, hrest⟩ := exists_of_cons h
          obtain ⟨signs, hsigns, rfl⟩ := ih _ (by simp only [List.length_cons]; omega) hrest rfl
          exact ⟨_, .plain hquote hslash (by omega) hsigns, (joinHalves_char c signs).symm⟩

end Transcode.Value
