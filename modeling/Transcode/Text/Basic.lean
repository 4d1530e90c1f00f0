/-!
# Texts

A text is a row of signs. Nearly all signs are characters. The codes from `0xD800` to `0xDFFF` are
no characters: a high half and a low half of them together spell a character beyond `0xFFFF`, and a
half that stands alone spells none. An escape in a configuration file can put such a half into a
text, and it stays there as it is.

A text without halves is a string, and strings are used as texts throughout. Where characters are
needed after all, to print a text or to look it up among names, each half is replaced by `U+FFFD`,
which no name holds.

## Main definitions

* `Sign`, `Text` — the signs, and rows of them;
* `Text.ofString` — a string as a text;
* `Text.chars?`, `Text.string?` — the characters of a text without halves;
* `Text.plain` — the characters of any text, with a replacement for each half.

## Main results

* `Text.string?_eq_some_iff` — a text is that of a string exactly if it has no halves;
* `Sign.ofCode_code` — a sign is known by its code.
-/

namespace Transcode

/-- A sign of a text: a character, or a half that stands alone, by its place among the halves. -/
inductive Sign where
  | char (c : Char)
  | half (n : Fin 0x800)
  deriving DecidableEq, Repr

instance : Coe Char Sign := ⟨.char⟩

namespace Sign

/-- The code of a sign: the code point of a character, and `0xD800` plus its place for a half. -/
def code : Sign → Nat
  | .char c => c.toNat
  | .half n => 0xD800 + n

/-- The sign with the given `Sign.code`. -/
def ofCode (code : Nat) : Sign :=
  if h : 0xD800 ≤ code ∧ code < 0xE000 then .half ⟨code - 0xD800, by omega⟩
  else .char (Char.ofNat code)

/-- The character of a sign, or `U+FFFD` for a `Sign.half`. -/
def toChar : Sign → Char
  | .char c => c
  | .half _ => '\uFFFD'

/-- The sign is a `Sign.half`. -/
def isHalf : Sign → Bool
  | .char _ => false
  | .half _ => true

/-- A sign is known by its `Sign.code`. -/
theorem ofCode_code (s : Sign) : ofCode s.code = s := by
  cases s with
  | char c =>
    have hc : ¬(0xD800 ≤ c.toNat ∧ c.toNat < 0xE000) := by
      rcases c.valid with h | ⟨h, _⟩
      · exact fun hn => absurd h (Nat.not_lt.2 hn.1)
      · exact fun hn => absurd h (Nat.not_lt.2 (Nat.le_of_lt_succ hn.2))
    rw [code, ofCode, dif_neg hc, Char.ofNat_toNat]
  | half n =>
    have hn : 0xD800 ≤ 0xD800 + n.val ∧ 0xD800 + n.val < 0xE000 := by omega
    simp only [code, ofCode, dif_pos hn, Nat.add_sub_cancel_left]

end Sign

/-- A row of `Sign`s. -/
abbrev Text := List Sign

namespace Text

/-- A string as a text of `Sign.char`s. -/
def ofString (s : String) : Text :=
  s.toList.map .char

instance : Coe String Text := ⟨ofString⟩

/-- The characters of a text, if no sign of it is a `Sign.half`. -/
def chars? : Text → Option (List Char)
  | [] => some []
  | .char c :: rest => (chars? rest).map (c :: ·)
  | .half _ :: _ => none

/-- The string that a text is, if `chars?` finds its characters. -/
def string? (t : Text) : Option String :=
  t.chars?.map String.ofList

/-- The characters of a text by `Sign.toChar`, so each `Sign.half` becomes `U+FFFD`. -/
def plain (t : Text) : String :=
  String.ofList (t.map Sign.toChar)

/-- A text does not come after another one in the order of the `Sign.code`s. -/
def notAfter (a b : Text) : Bool :=
  (List.decidableLE (a.map Sign.code) (b.map Sign.code)).decide

/-! ### Texts and strings -/

theorem chars?_map_char (cs : List Char) : chars? (cs.map .char) = some cs := by
  induction cs with
  | nil => rfl
  | cons c cs ih => simp [chars?, ih]

/-- The characters that `chars?` finds are all there is in the text. -/
theorem chars?_eq_some_iff {t : Text} {cs : List Char} : t.chars? = some cs ↔ t = cs.map .char := by
  refine ⟨fun h => ?_, fun h => h ▸ chars?_map_char cs⟩
  induction t generalizing cs with
  | nil => simp_all [chars?]
  | cons s t ih =>
    cases s with
    | half n => simp [chars?] at h
    | char c =>
      obtain ⟨rest, hr, rfl⟩ := Option.map_eq_some_iff.1 h
      rw [ih hr, List.map_cons]

@[simp] theorem string?_ofString (s : String) : (ofString s).string? = some s := by
  simp [string?, ofString, chars?_map_char]

/-- A text is `ofString` of a string exactly if `string?` finds that one. -/
theorem string?_eq_some_iff {t : Text} {s : String} : t.string? = some s ↔ t = ofString s := by
  refine ⟨fun h => ?_, fun h => h ▸ string?_ofString s⟩
  obtain ⟨cs, hc, rfl⟩ := Option.map_eq_some_iff.1 h
  rw [chars?_eq_some_iff.1 hc, ofString, String.toList_ofList]

@[simp] theorem ofString_inj {s t : String} : ofString s = ofString t ↔ s = t :=
  ⟨fun h => Option.some.inj (by rw [← string?_ofString s, h, string?_ofString]), congrArg ofString⟩

/-- No sign of a text is a `Sign.half`. -/
def HasNoHalf (t : Text) : Prop :=
  ∀ x ∈ t, x.isHalf = false

instance : DecidablePred HasNoHalf :=
  fun t => inferInstanceAs (Decidable (∀ x ∈ t, x.isHalf = false))

/-- A text with `HasNoHalf` has no `Sign.half` among its signs. -/
theorem hasNoHalf_iff {t : Text} : t.HasNoHalf ↔ ∀ n, .half n ∉ t := by
  refine ⟨fun h n hmem => absurd (h _ hmem) (by simp [Sign.isHalf]), fun h x hmem => ?_⟩
  cases x with
  | char c => rfl
  | half n => exact absurd hmem (h n)

/-- `HasNoHalf` holds of two texts together if it holds of both. -/
theorem HasNoHalf.append {s t : Text} (hs : s.HasNoHalf) (ht : t.HasNoHalf) :
    HasNoHalf (s ++ t) := by
  intro x hx
  rcases List.mem_append.mp hx with hx | hx
  · exact hs x hx
  · exact ht x hx

/-- `HasNoHalf` holds of `ofString` of any string. -/
theorem hasNoHalf_ofString (s : String) : (ofString s).HasNoHalf := by
  intro x hx
  obtain ⟨c, -, rfl⟩ := List.mem_map.mp hx
  rfl

/-- A text with `HasNoHalf` is `ofString` of a string. -/
theorem HasNoHalf.exists_eq_ofString {t : Text} (h : t.HasNoHalf) :
    ∃ s : String, t = ofString s := by
  induction t with
  | nil => exact ⟨"", rfl⟩
  | cons x t ih =>
      obtain ⟨s, rfl⟩ := ih fun y hy => h y (List.mem_cons_of_mem _ hy)
      cases x with
      | half n => exact absurd (h _ List.mem_cons_self) (by simp [Sign.isHalf])
      | char c => exact ⟨String.ofList (c :: s.toList), by simp [ofString]⟩

@[simp] theorem plain_ofString (s : String) : (ofString s).plain = s := by
  have h : Sign.toChar ∘ Sign.char = id := rfl
  simp [plain, ofString, h]

/-- `plain` of two texts together is `plain` of each. -/
@[simp] theorem plain_append (s t : Text) : plain (s ++ t) = s.plain ++ t.plain := by
  simp [plain]

end Text

end Transcode
