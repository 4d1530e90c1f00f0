import Transcode.Text.Utf8

/-!
# Texts from their bytes

Decoding undoes encoding, for every text. Each character is read by the number of bytes that its
first byte calls for, and the bounds of the second byte, which shut out what no character is encoded
as, let through all that are.

## Main results

* `decodeFrom_two`, `decodeFrom_three`, `decodeFrom_four` — a character of several bytes;
* `exists_continuation?_three`, `exists_continuation?_four` — the bounds hold of what is encoded;
* `decodeFrom_code_two`, `decodeFrom_code_three`, `decodeFrom_code_four` — the code of a character
  from its bytes;
* `decodeFrom_encodeChar` — one character, in front of any bytes;
* `decode_encode` — a text comes back from its bytes;
* `encode_append` — the bytes of two texts;
* `encodeText_eq_ok_iff` — which texts have bytes, and these.
-/

namespace Transcode.Text.Utf8

variable {position low high : Nat} {a b c d : UInt8} {rest : List UInt8}

/-! ### Characters of several bytes -/

theorem decodeFrom_one (h : continuation? a.toNat = some ⟨0, low, high⟩) :
    decodeFrom position (a :: rest) =
      (decodeFrom (position + 1) rest).map (Char.ofNat a.toNat :: ·) := by
  simp only [decodeFrom, h]

theorem decodeFrom_two (h : continuation? a.toNat = some ⟨1, low, high⟩)
    (hb : Continuation.admits ⟨1, low, high⟩ b = true) :
    decodeFrom position (a :: b :: rest) =
      (decodeFrom (position + 2) rest).map
        (Char.ofNat (a.toNat % 32 * 64 + tailBits b) :: ·) := by
  rw [decodeFrom, h]
  simp [hb]

theorem decodeFrom_three (h : continuation? a.toNat = some ⟨2, low, high⟩)
    (hb : Continuation.admits ⟨2, low, high⟩ b = true) (hc : isTail c = true) :
    decodeFrom position (a :: b :: c :: rest) =
      (decodeFrom (position + 3) rest).map
        (Char.ofNat (a.toNat % 16 * 4096 + tailBits b * 64 + tailBits c) :: ·) := by
  rw [decodeFrom, h]
  simp [hb, hc]

theorem decodeFrom_four (h : continuation? a.toNat = some ⟨3, low, high⟩)
    (hb : Continuation.admits ⟨3, low, high⟩ b = true) (hc : isTail c = true)
    (hd : isTail d = true) :
    decodeFrom position (a :: b :: c :: d :: rest) =
      (decodeFrom (position + 4) rest).map
        (Char.ofNat (a.toNat % 8 * 262144 + tailBits b * 4096 + tailBits c * 64
          + tailBits d) :: ·) := by
  rw [decodeFrom, h]
  simp [hb, hc, hd]

/-! ### Bytes that are encoded -/

/-- The bytes behind the first one are made of six bits each. -/
theorem toNat_tail (n : Nat) : (UInt8.ofNat (0x80 + n % 64)).toNat = 0x80 + n % 64 :=
  UInt8.toNat_ofNat_of_lt' (show _ < 0x100 by omega)

theorem isTail_ofNat (n : Nat) : isTail (UInt8.ofNat (0x80 + n % 64)) = true := by
  have hbyte := toNat_tail n
  simp only [isTail, hbyte, Bool.and_eq_true, decide_eq_true_eq]
  omega

theorem tailBits_ofNat (n : Nat) : tailBits (UInt8.ofNat (0x80 + n % 64)) = n % 64 := by
  rw [tailBits, toNat_tail]
  omega

theorem admits_ofNat {count n : Nat} (hlow : low ≤ 0x80 + n % 64) (hhigh : 0x80 + n % 64 ≤ high) :
    Continuation.admits ⟨count, low, high⟩ (UInt8.ofNat (0x80 + n % 64)) = true := by
  have hbyte := toNat_tail n
  simp only [Continuation.admits, hbyte, hlow, hhigh, decide_true, Bool.and_self]

/-- Two bytes hold what one does not, and have no bounds of their own. -/
theorem continuation?_two {n : Nat} (hlow : 0x80 ≤ n) (hhigh : n < 0x800) :
    continuation? (0xC0 + n / 64) = some ⟨1, 0x80, 0xBF⟩ := by
  rw [continuation?, if_neg (by omega), if_neg (by omega), if_pos (by omega)]

/-- Three bytes hold what two do not, and no half of a character. -/
theorem exists_continuation?_three {n : Nat} (hlow : 0x800 ≤ n) (hhigh : n < 0x10000)
    (hhalf : ¬(0xD800 ≤ n ∧ n < 0xE000)) :
    ∃ low high, continuation? (0xE0 + n / 4096) = some ⟨2, low, high⟩ ∧
      low ≤ 0x80 + n / 64 % 64 ∧ 0x80 + n / 64 % 64 ≤ high := by
  rw [continuation?, if_neg (by omega), if_neg (by omega), if_neg (by omega)]
  by_cases hfirst : 0xE0 + n / 4096 = 0xE0
  · exact ⟨_, _, if_pos hfirst, by omega, by omega⟩
  rw [if_neg hfirst]
  by_cases hhalves : 0xE0 + n / 4096 = 0xED
  · exact ⟨_, _, if_pos hhalves, by omega, by omega⟩
  rw [if_neg hhalves]
  exact ⟨_, _, if_pos (by omega), by omega, by omega⟩

/-- Four bytes hold what three do not, up to the last code. -/
theorem exists_continuation?_four {n : Nat} (hlow : 0x10000 ≤ n) (hhigh : n < 0x110000) :
    ∃ low high, continuation? (0xF0 + n / 262144) = some ⟨3, low, high⟩ ∧
      low ≤ 0x80 + n / 4096 % 64 ∧ 0x80 + n / 4096 % 64 ≤ high := by
  rw [continuation?, if_neg (by omega), if_neg (by omega), if_neg (by omega), if_neg (by omega),
    if_neg (by omega), if_neg (by omega)]
  by_cases hfirst : 0xF0 + n / 262144 = 0xF0
  · exact ⟨_, _, if_pos hfirst, by omega, by omega⟩
  rw [if_neg hfirst]
  by_cases hmiddle : 0xF0 + n / 262144 < 0xF4
  · exact ⟨_, _, if_pos hmiddle, by omega, by omega⟩
  rw [if_neg hmiddle]
  exact ⟨_, _, if_pos (by omega), by omega, by omega⟩

/-! ### Codes -/

theorem decodeFrom_code_one {n : Nat} (h : n < 0x80) :
    decodeFrom position (UInt8.ofNat n :: rest) =
      (decodeFrom (position + 1) rest).map (Char.ofNat n :: ·) := by
  have hbyte : (UInt8.ofNat n).toNat = n :=
    UInt8.toNat_ofNat_of_lt' (show _ < 0x100 by omega)
  have hcontinuation : continuation? (UInt8.ofNat n).toNat = some ⟨0, 0, 0⟩ := by
    rw [hbyte, continuation?, if_pos h]
  rw [decodeFrom_one hcontinuation, hbyte]

theorem decodeFrom_code_two {n : Nat} (hlow : 0x80 ≤ n) (hhigh : n < 0x800) :
    decodeFrom position
        (UInt8.ofNat (0xC0 + n / 64) :: UInt8.ofNat (0x80 + n % 64) :: rest) =
      (decodeFrom (position + 2) rest).map (Char.ofNat n :: ·) := by
  have hbyte : (UInt8.ofNat (0xC0 + n / 64)).toNat = 0xC0 + n / 64 :=
    UInt8.toNat_ofNat_of_lt' (show _ < 0x100 by omega)
  have hcontinuation := continuation?_two hlow hhigh
  rw [← hbyte] at hcontinuation
  have hcode : (0xC0 + n / 64) % 32 * 64 + n % 64 = n := by omega
  rw [decodeFrom_two hcontinuation (admits_ofNat (by omega) (by omega)), hbyte, tailBits_ofNat,
    hcode]

theorem decodeFrom_code_three {n : Nat} (hlow : 0x800 ≤ n) (hhigh : n < 0x10000)
    (hhalf : ¬(0xD800 ≤ n ∧ n < 0xE000)) :
    decodeFrom position (UInt8.ofNat (0xE0 + n / 4096) :: UInt8.ofNat (0x80 + n / 64 % 64)
        :: UInt8.ofNat (0x80 + n % 64) :: rest) =
      (decodeFrom (position + 3) rest).map (Char.ofNat n :: ·) := by
  have hbyte : (UInt8.ofNat (0xE0 + n / 4096)).toNat = 0xE0 + n / 4096 :=
    UInt8.toNat_ofNat_of_lt' (show _ < 0x100 by omega)
  obtain ⟨low, high, hcontinuation, hfrom, hto⟩ := exists_continuation?_three hlow hhigh hhalf
  rw [← hbyte] at hcontinuation
  have hcode : (0xE0 + n / 4096) % 16 * 4096 + n / 64 % 64 * 64 + n % 64 = n := by omega
  rw [decodeFrom_three hcontinuation (admits_ofNat hfrom hto) (isTail_ofNat _), hbyte,
    tailBits_ofNat, tailBits_ofNat, hcode]

theorem decodeFrom_code_four {n : Nat} (hlow : 0x10000 ≤ n) (hhigh : n < 0x110000) :
    decodeFrom position (UInt8.ofNat (0xF0 + n / 262144) :: UInt8.ofNat (0x80 + n / 4096 % 64)
        :: UInt8.ofNat (0x80 + n / 64 % 64) :: UInt8.ofNat (0x80 + n % 64) :: rest) =
      (decodeFrom (position + 4) rest).map (Char.ofNat n :: ·) := by
  have hbyte : (UInt8.ofNat (0xF0 + n / 262144)).toNat = 0xF0 + n / 262144 :=
    UInt8.toNat_ofNat_of_lt' (show _ < 0x100 by omega)
  obtain ⟨low, high, hcontinuation, hfrom, hto⟩ := exists_continuation?_four hlow hhigh
  rw [← hbyte] at hcontinuation
  have hcode : (0xF0 + n / 262144) % 8 * 262144 + n / 4096 % 64 * 4096 + n / 64 % 64 * 64
      + n % 64 = n := by omega
  rw [decodeFrom_four hcontinuation (admits_ofNat hfrom hto) (isTail_ofNat _) (isTail_ofNat _),
    hbyte, tailBits_ofNat, tailBits_ofNat, tailBits_ofNat, hcode]

/-! ### Texts -/

/-- The code of a character is that of no half, and not beyond the last one. -/
theorem code_bounds (c : Char) : ¬(0xD800 ≤ c.toNat ∧ c.toNat < 0xE000) ∧ c.toNat < 0x110000 := by
  have hvalid : c.toNat < 0xD800 ∨ 0xDFFF < c.toNat ∧ c.toNat < 0x110000 := c.valid
  omega

/-- `decodeFrom` reads a character back, whatever follows it. -/
theorem decodeFrom_encodeChar (c : Char) (position : Nat) (rest : List UInt8) :
    decodeFrom position (encodeChar c ++ rest) =
      (decodeFrom (position + (encodeChar c).length) rest).map (c :: ·) := by
  obtain ⟨hhalf, hlast⟩ := code_bounds c
  have hc : Char.ofNat c.toNat = c := Char.ofNat_toNat c
  rw [encodeChar]
  generalize c.toNat = n at hhalf hlast hc ⊢
  subst hc
  split
  next hone => exact decodeFrom_code_one hone
  next hone =>
    split
    next htwo => exact decodeFrom_code_two (Nat.le_of_not_lt hone) htwo
    next htwo =>
      split
      next hthree => exact decodeFrom_code_three (Nat.le_of_not_lt htwo) hthree hhalf
      next hthree => exact decodeFrom_code_four (Nat.le_of_not_lt hthree) hlast

/-- `decodeFrom` reads a text back from its bytes, wherever they stand. -/
theorem decodeFrom_encode (text : List Char) (position : Nat) :
    decodeFrom position (encode text) = .ok text := by
  induction text generalizing position with
  | nil => rfl
  | cons c text ih =>
      rw [encode, List.flatMap_cons, decodeFrom_encodeChar, ← encode, ih]
      rfl

/-- **`decode` reads a text back from its bytes.** -/
theorem decode_encode (text : List Char) : decode (encode text) = .ok text :=
  decodeFrom_encode text 0

/-- `encode` of two texts together is `encode` of each. -/
theorem encode_append (s t : List Char) : encode (s ++ t) = encode s ++ encode t :=
  List.flatMap_append

/-- `encodeText` has bytes for a text exactly if there is no `Sign.half` in it, and then those of
its characters. -/
theorem encodeText_eq_ok_iff {t : Text} {bytes : List UInt8} :
    encodeText t = .ok bytes ↔ t.HasNoHalf ∧ bytes = encode t.plain.toList := by
  rw [encodeText, ← SystemName.strictFault?_eq_none_iff]
  cases SystemName.strictFault? t <;> simp [eq_comm]

end Transcode.Text.Utf8
