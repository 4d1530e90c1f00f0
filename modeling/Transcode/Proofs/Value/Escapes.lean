import Mathlib.Data.Nat.Init
import Transcode.Value.Printer
import Transcode.Value.Reader

/-!
# Written texts

A text that has been written is read back as it was, if it has no halves. A character is written as
itself, as a short escape, by its code in four digits, or as two halves in four digits each, and in
each case the reader gives back that character and goes on behind it.

Places matter only where something is at fault, so they are left open here.

## Main results

* `exists_hexDigits_four` — four digits are read back as the number;
* `exists_readSigns_writeChar` — one character, with a case for each way of writing it;
* `exists_readText_writeText` — a whole text, by induction on its signs.
-/

namespace Transcode.Value

open Text (hexDigits hexValue? HasNoHalf)

variable {rest : List Char}

/-! ### Four digits -/

/-- `hexValue?` reads `Nat.digitChar` back. -/
theorem hexValue?_digitChar {n : Nat} (h : n < 16) : hexValue? (Nat.digitChar n) = some n := by
  have hall : ∀ m : Fin 16, hexValue? (Nat.digitChar m) = some m.val := by decide
  exact hall ⟨n, h⟩

/-- `hex4?` reads four `hexDigits` back as the number that they were written for. -/
theorem exists_hexDigits_four {n : Nat} (h : n < 0x10000) :
    ∃ a b c d, hexDigits 4 n = [a, b, c, d] ∧ hex4? a b c d = some n := by
  refine ⟨_, _, _, _, rfl, ?_⟩
  have hmod (m : Nat) : m % 16 < 16 := Nat.mod_lt _ (by decide)
  rw [hex4?, hexValue?_digitChar (hmod _), hexValue?_digitChar (hmod _),
    hexValue?_digitChar (hmod _), hexValue?_digitChar (hmod _)]
  dsimp only
  congr 1
  omega

/-! ### One character -/

/-- `readSigns` skips what belongs to an escape that has been read. -/
theorem readSigns_skip (start i : Nat) (front rest : List Char) :
    readSigns start front.length i (front ++ rest) = readSigns start 0 (i + front.length) rest := by
  induction front generalizing i with
  | nil => rfl
  | cons c front ih =>
      rw [List.length_cons, List.cons_append, readSigns, ih]
      congr 1
      omega

/-- An escape of one letter is read as the character that `simpleEscape?` gives. -/
theorem readSigns_simpleEscape {e c : Char} (he : e ≠ 'u') (hescape : simpleEscape? e = some c)
    (start i : Nat) (rest : List Char) :
    readSigns start 0 i ('\\' :: e :: rest) = cons (.char c) (readSigns start 0 (i + 2) rest) := by
  have hskip := readSigns_skip start (i + 1) [e] rest
  rw [readSigns]
  · rw [hescape]
    exact congrArg (cons (.char c)) hskip
  · exact he

/-- A character that is written as itself. -/
theorem readSigns_self {c : Char} (hquote : c ≠ '"') (hslash : c ≠ '\\') (hlow : 0x20 ≤ c.toNat)
    (start i : Nat) (rest : List Char) :
    readSigns start 0 i (c :: rest) = cons (.char c) (readSigns start 0 (i + 1) rest) := by
  rw [readSigns]
  · rw [if_neg (by omega)]
  · exact fun h => hquote h
  · exact fun h => hslash h

/-- The sign that `readCode` gives for an escape by code stands in front of what is read behind it.
-/
theorem readSigns_of_readCode {i : Nat} {s : Sign} {pair : Bool} (front : List Char)
    (hcode : readCode (i + 1) (front ++ rest) = .ok (s, pair))
    (hlength : front.length = if pair then 10 else 4) (start : Nat) :
    readSigns start 0 i ('\\' :: 'u' :: (front ++ rest)) =
      cons s (readSigns start 0 (i + 2 + front.length) rest) := by
  have hskip := readSigns_skip start (i + 1) ('u' :: front) rest
  have hpair : (if pair then 11 else 5) = ('u' :: front).length := by
    rw [List.length_cons, hlength]
    cases pair <;> rfl
  rw [readSigns, hcode]
  dsimp only
  rw [hpair]
  rw [List.cons_append] at hskip
  rw [hskip, List.length_cons]
  congr 2
  omega

/-- `readCode` joins a high half and the low half behind it by `charOfHalves`. -/
theorem readCode_of_halves {a b c d e f g h : Char} {high low : Nat}
    (hhigh : hex4? a b c d = some high) (hlow : hex4? e f g h = some low)
    (hishigh : isHighHalf high = true) (hislow : isLowHalf low = true) (hrest : rest ≠ [])
    (i : Nat) :
    readCode i (a :: b :: c :: d :: '\\' :: 'u' :: e :: f :: g :: h :: rest) =
      .ok (.char (charOfHalves high low), true) := by
  obtain ⟨next, more, rfl⟩ := List.exists_cons_of_ne_nil hrest
  simp [readCode, hhigh, hlow, hishigh, hislow]

/-- A `codeEscape` below `0x10000` that is no high half is read as its `Sign.ofCode`. -/
theorem readSigns_codeEscape {n : Nat} (hn : n < 0x10000) (hhigh : isHighHalf n = false)
    (hrest : rest ≠ []) (start i : Nat) :
    readSigns start 0 i (codeEscape n ++ rest) =
      cons (.ofCode n) (readSigns start 0 (i + 6) rest) := by
  obtain ⟨a, b, c, d, hdigits, hvalue⟩ := exists_hexDigits_four hn
  obtain ⟨next, more, rfl⟩ := List.exists_cons_of_ne_nil hrest
  have hcode : readCode (i + 1) (a :: b :: c :: d :: next :: more) = .ok (.ofCode n, false) := by
    simp [readCode, hvalue, hhigh]
  rw [codeEscape, hdigits]
  exact readSigns_of_readCode [a, b, c, d] hcode rfl start

/-- Two `codeEscape`s, of a high half and a low one, are read as one character. -/
theorem readSigns_halves {high low : Nat} (hhigh : isHighHalf high = true)
    (hlow : isLowHalf low = true) (hrest : rest ≠ []) (start i : Nat) :
    readSigns start 0 i (codeEscape high ++ codeEscape low ++ rest) =
      cons (.char (charOfHalves high low)) (readSigns start 0 (i + 12) rest) := by
  have hcodes : high < 0x10000 ∧ low < 0x10000 := by
    simp only [isHighHalf, isLowHalf, Bool.and_eq_true, decide_eq_true_eq] at hhigh hlow
    omega
  obtain ⟨a, b, c, d, hdigits, hvalue⟩ := exists_hexDigits_four hcodes.1
  obtain ⟨e, f, g, h, hdigits', hvalue'⟩ := exists_hexDigits_four hcodes.2
  have hcode := readCode_of_halves hvalue hvalue' hhigh hlow hrest (i + 1)
  rw [codeEscape, codeEscape, hdigits, hdigits']
  exact readSigns_of_readCode [a, b, c, d, '\\', 'u', e, f, g, h] hcode rfl start

/-- The code of a character is no high half. -/
theorem isHighHalf_toNat (c : Char) : isHighHalf c.toNat = false := by
  have hvalid : c.toNat < 0xD800 ∨ 0xDFFF < c.toNat ∧ c.toNat < 0x110000 := c.valid
  simp only [isHighHalf, Bool.and_eq_false_iff, decide_eq_false_iff_not]
  omega

/-- The two halves that `writeChar` makes of a character beyond `0xFFFF` are read as that character.
-/
theorem readSigns_halves_toNat {c : Char} (hc : 0x10000 ≤ c.toNat) (hrest : rest ≠ [])
    (start i : Nat) :
    readSigns start 0 i
        (codeEscape (0xD800 + (c.toNat - 0x10000) / 1024) ++
          codeEscape (0xDC00 + (c.toNat - 0x10000) % 1024) ++ rest) =
      cons (.char c) (readSigns start 0 (i + 12) rest) := by
  have hvalid : c.toNat < 0xD800 ∨ 0xDFFF < c.toNat ∧ c.toNat < 0x110000 := c.valid
  rw [readSigns_halves _ _ hrest]
  · have hcode : 0x10000 + (0xD800 + (c.toNat - 0x10000) / 1024 - 0xD800) * 1024 +
        (0xDC00 + (c.toNat - 0x10000) % 1024 - 0xDC00) = c.toNat := by omega
    rw [charOfHalves, hcode, Char.ofNat_toNat]
  · simp only [isHighHalf, Bool.and_eq_true, decide_eq_true_eq]
    omega
  · simp only [isLowHalf, Bool.and_eq_true, decide_eq_true_eq]
    omega

/-- The four forms of `writeChar`. -/
theorem writeChar_cases (c : Char) :
    (∃ e, e ≠ 'u' ∧ simpleEscape? e = some c ∧ writeChar c = ['\\', e]) ∨
      (c ≠ '"' ∧ c ≠ '\\' ∧ 0x20 ≤ c.toNat ∧ c.toNat ≤ 0x7E ∧ writeChar c = [c]) ∨
      (c.toNat < 0x10000 ∧ writeChar c = codeEscape c.toNat) ∨
      (0x10000 ≤ c.toNat ∧
        writeChar c = codeEscape (0xD800 + (c.toNat - 0x10000) / 1024) ++
          codeEscape (0xDC00 + (c.toNat - 0x10000) % 1024)) := by
  by_cases hletter : c ∈ ['"', '\\', '\n', '\r', '\t', Char.ofNat 8, Char.ofNat 12]
  · left
    simp only [List.mem_cons, List.not_mem_nil, or_false] at hletter
    obtain rfl | rfl | rfl | rfl | rfl | rfl | rfl := hletter
    · exact ⟨'"', by decide, rfl, rfl⟩
    · exact ⟨'\\', by decide, rfl, rfl⟩
    · exact ⟨'n', by decide, rfl, rfl⟩
    · exact ⟨'r', by decide, rfl, rfl⟩
    · exact ⟨'t', by decide, rfl, rfl⟩
    · exact ⟨'b', by decide, rfl, rfl⟩
    · exact ⟨'f', by decide, rfl, rfl⟩
  · right
    simp only [List.mem_cons, List.not_mem_nil, or_false, not_or] at hletter
    obtain ⟨hquote, hslash, hfeed, hreturn, htab, hback, hpage⟩ := hletter
    have hne (n : Nat) (h : c ≠ Char.ofNat n) : c.toNat ≠ n := fun hn =>
      h (by rw [← hn, Char.ofNat_toNat])
    simp only [writeChar, hquote, hslash, hfeed, hreturn, htab, hne 8 hback, hne 12 hpage,
      if_false]
    split
    next h => exact Or.inl ⟨hquote, hslash, h.1, h.2, rfl⟩
    next =>
      split
      next h => exact Or.inr (Or.inl ⟨h, rfl⟩)
      next h => exact Or.inr (Or.inr ⟨Nat.not_lt.mp h, rfl⟩)

/-- `readSigns` reads `writeChar` back, whichever of the forms it has. -/
theorem exists_readSigns_writeChar (c : Char) (hrest : rest ≠ []) (start i : Nat) :
    ∃ j, readSigns start 0 i (writeChar c ++ rest) = cons (.char c) (readSigns start 0 j rest) := by
  obtain ⟨e, he, hescape, hwrite⟩ | ⟨hquote, hslash, hlow, -, hwrite⟩ | ⟨hcode, hwrite⟩ |
    ⟨hcode, hwrite⟩ := writeChar_cases c
  · rw [hwrite]
    exact ⟨_, readSigns_simpleEscape he hescape start i rest⟩
  · rw [hwrite]
    exact ⟨_, readSigns_self hquote hslash hlow start i rest⟩
  · have hread := readSigns_codeEscape hcode (isHighHalf_toNat c) hrest start i
    rw [show Sign.ofCode c.toNat = .char c from Sign.ofCode_code (.char c)] at hread
    rw [hwrite]
    exact ⟨_, hread⟩
  · rw [hwrite]
    exact ⟨_, readSigns_halves_toNat hcode hrest start i⟩

/-! ### A whole text -/

/-- A text with `HasNoHalf` is read back from between its quotes. -/
theorem exists_readSigns_flatMap {t : Text} (ht : t.HasNoHalf) (start i : Nat)
    (rest : List Char) :
    ∃ j, readSigns start 0 i (t.flatMap writeSign ++ '"' :: rest) = .ok (t, j, rest) := by
  induction t generalizing i with
  | nil => exact ⟨i + 1, by rw [List.flatMap_nil, List.nil_append, readSigns]⟩
  | cons s t ih =>
      cases s with
      | half n => exact absurd (ht _ List.mem_cons_self) (by simp [Sign.isHalf])
      | char c =>
          have hne : t.flatMap writeSign ++ '"' :: rest ≠ [] := by simp
          obtain ⟨j, hj⟩ := exists_readSigns_writeChar c hne start i
          obtain ⟨k, hk⟩ := ih (fun x hx => ht x (List.mem_cons_of_mem _ hx)) j
          refine ⟨k, ?_⟩
          rw [List.flatMap_cons, List.append_assoc, writeSign, hj, hk, cons]

/-- **A written text is read back** if it has no half: `readText` gives what `writeText` was given,
and leaves what stands behind it. -/
theorem exists_readText_writeText {t : Text} (ht : t.HasNoHalf) (start : Nat) (rest : List Char) :
    ∃ more j, writeText t ++ rest = '"' :: more ∧ readText start more = .ok (t, j, rest) := by
  obtain ⟨j, hj⟩ := exists_readSigns_flatMap ht start (start + 1) rest
  refine ⟨t.flatMap writeSign ++ '"' :: rest, j, ?_, hj⟩
  simp [writeText]

end Transcode.Value
