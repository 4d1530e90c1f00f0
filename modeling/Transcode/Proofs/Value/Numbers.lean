import Transcode.Value.Reader

/-!
# Numbers as they are spelled

A number is spelled by a sign perhaps, whole digits, digits of a fraction perhaps, and an exponent
perhaps, which has a sign and digits of its own. The whole digits begin with a zero only if they are
a zero alone. Without a fraction and an exponent the number is whole.

The reader takes as much of a text for a number as it can, and what it takes is spelled so. It
refuses a whole number with too many digits, but nothing else that is spelled so.

## Main definitions

* `Exponent`, `Numeral` — spellings, with `Numeral.chars` and `Numeral.value`;
* `Numeral.IsReadable` — a spelling without too many digits;
* `EndsNumber` — a rest that does not go on with a number.

## Main results

* `exists_readNumber_chars` — what is spelled is read;
* `exists_numeral_of_readNumber` — what is read is spelled.
-/

namespace Transcode.Value

/-- The spelling of an exponent: its letter, a sign perhaps, which is a minus if it is `true`, and
digits. -/
structure Exponent where
  capital : Bool
  sign : Option Bool
  digits : List Char
  digits_ne_nil : digits ≠ []
  isDigit_digits : ∀ c ∈ digits, isDigit c = true

/-- The spelling of a number: a minus perhaps, whole digits, the digits of a fraction, `[]` if there
is none, and an exponent perhaps. -/
structure Numeral where
  negative : Bool
  whole : List Char
  fraction : List Char
  exponent : Option Exponent
  isDigit_whole : ∀ c ∈ whole, isDigit c = true
  /-- A zero in front stands alone. -/
  whole_eq : whole = ['0'] ∨ ∃ c more, whole = c :: more ∧ c ≠ '0'
  isDigit_fraction : ∀ c ∈ fraction, isDigit c = true

namespace Exponent

/-- The characters of a sign, and whether it is a minus. -/
def signChars : Option Bool → List Char
  | none => []
  | some true => ['-']
  | some false => ['+']

/-- The characters of an exponent. -/
def chars (e : Exponent) : List Char :=
  (if e.capital then 'E' else 'e') :: (signChars e.sign ++ e.digits)

/-- The number that an exponent stands for. -/
def value (e : Exponent) : Int :=
  if e.sign = some true then -(natOfDigits e.digits : Int) else natOfDigits e.digits

end Exponent

namespace Numeral

/-- The characters of a fraction. -/
def fractionChars : List Char → List Char
  | [] => []
  | digits => '.' :: digits

/-- The characters of an exponent, if there is one. -/
def exponentChars (n : Numeral) : List Char :=
  (n.exponent.map Exponent.chars).getD []

/-- The characters of a number. -/
def chars (n : Numeral) : List Char :=
  (if n.negative then ['-'] else []) ++
    (n.whole ++ (fractionChars n.fraction ++ n.exponentChars))

/-- The number that a spelling stands for. -/
def value (n : Numeral) : Value :=
  match n.fraction, n.exponent with
  | [], none =>
    .int (if n.negative then -(natOfDigits n.whole : Int) else natOfDigits n.whole)
  | fraction, exponent =>
    .float (readNumber.decimal n.negative (n.whole ++ fraction)
      ((exponent.map Exponent.value).getD 0 - fraction.length))

/-- Without a fraction and an exponent a number is whole. -/
theorem value_of_whole {n : Numeral} (hfraction : n.fraction = []) (hexponent : n.exponent = none) :
    n.value = .int (if n.negative then -(natOfDigits n.whole : Int) else natOfDigits n.whole) := by
  simp only [value, hfraction, hexponent]

/-- Any other number is one of double precision. -/
theorem value_of_parts {n : Numeral} (h : n.fraction = [] → n.exponent ≠ none) :
    n.value = .float (readNumber.decimal n.negative (n.whole ++ n.fraction)
      ((n.exponent.map Exponent.value).getD 0 - n.fraction.length)) := by
  unfold value
  split
  next hfraction hexponent => exact absurd hexponent (h hfraction)
  next => rfl

/-- `readNumber` refuses a whole number of more than `maxDigits` digits, and no other number. -/
def IsReadable (n : Numeral) : Prop :=
  n.fraction = [] → n.exponent = none → n.whole.length ≤ maxDigits

end Numeral

variable {cs rest : List Char}

/-! ### The end of a number -/

/-- The text does not go on with a number: with neither a digit nor a point nor the letter of an
exponent. -/
def EndsNumber (rest : List Char) : Prop :=
  ∀ c more, rest = c :: more → isDigit c = false ∧ c ≠ '.' ∧ c ≠ 'e' ∧ c ≠ 'E'

theorem endsNumber_nil : EndsNumber [] :=
  fun _ _ h => nomatch h

/-- The characters that may stand behind a value. -/
def followers : List Char := [',', ']', '\x7d', ' ', '\t', '\n', '\r']

theorem endsNumber_cons {c : Char} (h : c ∈ followers) (more : List Char) :
    EndsNumber (c :: more) := by
  intro d more' heq
  obtain ⟨rfl, -⟩ := List.cons.inj heq
  simp only [followers, List.mem_cons, List.not_mem_nil, or_false] at h
  obtain rfl | rfl | rfl | rfl | rfl | rfl | rfl := h <;> decide

/-- `exponentPart` finds nothing in a text with `EndsNumber`. -/
theorem exponentPart_of_endsNumber (hrest : EndsNumber rest) : exponentPart rest = none := by
  cases rest with
  | nil => rfl
  | cons c more =>
      obtain ⟨-, -, hlower, hupper⟩ := hrest c more rfl
      unfold exponentPart
      dsimp only
      rw [if_neg (not_or.mpr ⟨hlower, hupper⟩)]

/-! ### Digits -/

/-- A text does not begin with a digit. -/
def EndsDigits (rest : List Char) : Prop :=
  ∀ c more, rest = c :: more → isDigit c = false

theorem EndsNumber.endsDigits (h : EndsNumber rest) : EndsDigits rest :=
  fun c more heq => (h c more heq).1

/-- `takeWhile` takes digits up to what is none. -/
theorem takeWhile_isDigit_append {digits : List Char} (h : ∀ c ∈ digits, isDigit c = true)
    (hrest : EndsDigits rest) : (digits ++ rest).takeWhile isDigit = digits := by
  rw [List.takeWhile_append_of_pos h]
  cases rest with
  | nil => rw [List.takeWhile_nil, List.append_nil]
  | cons c more => rw [List.takeWhile_cons, if_neg (by simp [hrest c more rfl]), List.append_nil]

/-! ### Signs of exponents -/

/-- The sign in front of the digits of an exponent: whether it is a minus, its length, and the text
behind it. -/
def signPart : List Char → Bool × Nat × List Char
  | '-' :: rest => (true, 1, rest)
  | '+' :: rest => (false, 1, rest)
  | rest => (false, 0, rest)

/-- `exponentPart` by the sign and the digits behind its letter. -/
theorem exponentPart_cons {letter : Char} (h : letter = 'e' ∨ letter = 'E') (cs : List Char) :
    exponentPart (letter :: cs) =
      if ((signPart cs).2.2.takeWhile isDigit).isEmpty then none
      else
        some (if (signPart cs).1 then -(natOfDigits ((signPart cs).2.2.takeWhile isDigit) : Int)
          else natOfDigits ((signPart cs).2.2.takeWhile isDigit),
          1 + (signPart cs).2.1 + ((signPart cs).2.2.takeWhile isDigit).length) := by
  simp only [exponentPart, if_pos h]
  rfl

/-- What `signPart` has taken are the `signChars` of some sign. -/
theorem exists_sign (cs : List Char) :
    ∃ sign, cs = Exponent.signChars sign ++ (signPart cs).2.2 ∧
      (signPart cs).2.1 = (Exponent.signChars sign).length ∧
      (signPart cs).1 = (sign == some true) := by
  unfold signPart
  split
  next => exact ⟨some true, rfl, rfl, rfl⟩
  next => exact ⟨some false, rfl, rfl, rfl⟩
  next => exact ⟨none, rfl, rfl, rfl⟩

/-- Digits are no sign. -/
theorem ne_sign_of_isDigit {c : Char} (h : isDigit c = true) : c ≠ '-' ∧ c ≠ '+' ∧ c ≠ '.' := by
  refine ⟨?_, ?_, ?_⟩
  all_goals
    rintro rfl
    exact absurd h (by decide)

/-- `signPart` takes the `signChars` in front of a digit. -/
theorem signPart_append (sign : Option Bool) {d : Char} (hd : isDigit d = true) (more : List Char) :
    signPart (Exponent.signChars sign ++ d :: more) =
      (sign == some true, (Exponent.signChars sign).length, d :: more) := by
  obtain ⟨hminus, hplus, -⟩ := ne_sign_of_isDigit hd
  rcases sign with _ | negative
  · rw [Exponent.signChars, List.nil_append, signPart]
    · rfl
    · exact fun _ h => hminus (List.cons.inj h).1
    · exact fun _ h => hplus (List.cons.inj h).1
  · cases negative <;> rfl

/-! ### What is spelled is read -/

/-- `exponentPart` finds the `Exponent` that is written, with its length. -/
theorem exponentPart_chars (e : Exponent) (hrest : EndsDigits rest) :
    exponentPart (e.chars ++ rest) = some (e.value, e.chars.length) := by
  have htake := takeWhile_isDigit_append e.isDigit_digits hrest
  have hsome : e.digits.isEmpty = false := by simpa using e.digits_ne_nil
  obtain ⟨d, more, hd⟩ := List.exists_cons_of_ne_nil e.digits_ne_nil
  have hdigit : isDigit d = true := e.isDigit_digits d (hd ▸ List.mem_cons_self)
  have hsign : signPart (Exponent.signChars e.sign ++ (e.digits ++ rest)) =
      (e.sign == some true, (Exponent.signChars e.sign).length, e.digits ++ rest) := by
    rw [hd]
    exact signPart_append e.sign hdigit (more ++ rest)
  have hletter : (if e.capital then 'E' else 'e') = 'e' ∨
      (if e.capital then 'E' else 'e') = 'E' := by
    cases e.capital <;> simp
  rw [Exponent.chars, List.cons_append, List.append_assoc, exponentPart_cons hletter, hsign]
  dsimp only
  rw [htake, hsome, if_neg Bool.false_ne_true, Exponent.value, List.length_cons,
    List.length_append]
  simp only [beq_iff_eq]
  congr 2
  omega

/-- `wholePart` finds the whole digits of a `Numeral`. -/
theorem wholePart_append (n : Numeral) (hrest : EndsDigits rest) :
    wholePart (n.whole ++ rest) = n.whole := by
  rcases n.whole_eq with hzero | ⟨c, more, hc, hne⟩
  · rw [hzero]
    rfl
  · have htake := takeWhile_isDigit_append n.isDigit_whole hrest
    rw [hc] at htake ⊢
    rw [List.cons_append, wholePart]
    · exact htake
    · exact fun _ h => hne (List.cons.inj h).1

/-- `fractionPart` finds the digits that `fractionChars` writes. -/
theorem fractionPart_append {digits : List Char} (h : ∀ c ∈ digits, isDigit c = true)
    (hrest : EndsDigits rest) (hpoint : ∀ more, rest ≠ '.' :: more) :
    fractionPart (Numeral.fractionChars digits ++ rest) = digits := by
  cases digits with
  | nil =>
      rw [Numeral.fractionChars, List.nil_append, fractionPart]
      exact fun more heq => hpoint more heq
  | cons d more =>
      rw [Numeral.fractionChars, List.cons_append, fractionPart]
      · exact takeWhile_isDigit_append h hrest
      · exact List.cons_ne_nil d more

/-- What stands behind whole digits, or behind a fraction, has `EndsDigits`. -/
theorem endsDigits_tail (n : Numeral) (hrest : EndsNumber rest) :
    EndsDigits (n.exponentChars ++ rest) ∧
      (∀ more, n.exponentChars ++ rest ≠ '.' :: more) ∧
      EndsDigits (Numeral.fractionChars n.fraction ++ (n.exponentChars ++ rest)) := by
  have hexponent : EndsDigits (n.exponentChars ++ rest) ∧
      ∀ more, n.exponentChars ++ rest ≠ '.' :: more := by
    rw [Numeral.exponentChars]
    rcases n.exponent with _ | e
    · exact ⟨hrest.endsDigits, fun more heq => (hrest '.' more heq).2.1 rfl⟩
    · rw [Option.map_some, Option.getD_some, Exponent.chars, List.cons_append]
      refine ⟨fun c more heq => ?_, fun more heq => ?_⟩
      · rw [← (List.cons.inj heq).1]
        cases e.capital <;> decide
      · have hpoint := (List.cons.inj heq).1
        revert hpoint
        cases e.capital <;> decide
  refine ⟨hexponent.1, hexponent.2, ?_⟩
  cases n.fraction with
  | nil => exact hexponent.1
  | cons d more =>
      intro c tail heq
      rw [← (List.cons.inj heq).1]
      decide

/-- The length of `fractionChars`, with the point. -/
theorem length_fractionChars (digits : List Char) :
    (if digits.isEmpty then 0 else digits.length + 1) = (Numeral.fractionChars digits).length := by
  cases digits <;> rfl

/-- The minus in front of a number, its length, and the text behind it. -/
def minusPart (cs : List Char) : Bool × Nat × List Char :=
  match cs with
  | '-' :: rest => (true, 1, rest)
  | _ => (false, 0, cs)

/-- `minusPart` takes the minus of a `Numeral` exactly if it has one. -/
theorem minusPart_chars (n : Numeral) (rest : List Char) :
    minusPart (n.chars ++ rest) = (n.negative, (if n.negative then 1 else 0),
      n.whole ++ (Numeral.fractionChars n.fraction ++ (n.exponentChars ++ rest))) := by
  rw [Numeral.chars]
  cases n.negative with
  | true => simp [minusPart]
  | false =>
      obtain ⟨d, more, hd⟩ : ∃ d more, n.whole = d :: more :=
        n.whole_eq.elim (fun h => ⟨_, _, h⟩) fun ⟨c, more, h, _⟩ => ⟨c, more, h⟩
      have hminus : d ≠ '-' := (ne_sign_of_isDigit (n.isDigit_whole d (hd ▸ List.mem_cons_self))).1
      simp [minusPart, hd, hminus]

/-- **A number that is spelled is read**: `readNumber` gives the value of each readable `Numeral`,
in front of whatever does not go on with a number. -/
theorem exists_readNumber_chars (n : Numeral) (hn : n.IsReadable) (hrest : EndsNumber rest)
    (i : Nat) : ∃ j, readNumber i (n.chars ++ rest) = .ok (n.value, j, rest) := by
  obtain ⟨hdigits, hpoint, htail⟩ := endsDigits_tail n hrest
  have hwhole := wholePart_append n htail
  have hsome : n.whole.isEmpty = false := by
    rcases n.whole_eq with h | ⟨_, _, h, _⟩ <;> rw [h] <;> rfl
  have hfraction := fractionPart_append n.isDigit_fraction hdigits hpoint
  have hminus := minusPart_chars n rest
  unfold readNumber
  split
  next negative signs body heq =>
  obtain ⟨rfl, htail⟩ := Prod.mk.inj (hminus.symm.trans heq)
  obtain ⟨-, rfl⟩ := Prod.mk.inj htail
  simp only [hwhole, hsome, Bool.false_eq_true, if_false, List.drop_left, hfraction,
    length_fractionChars]
  cases hexponent : n.exponent with
  | none =>
      have hchars : n.exponentChars = [] := by simp [Numeral.exponentChars, hexponent]
      rw [hchars, List.nil_append, exponentPart_of_endsNumber hrest]
      dsimp only
      split
      next hnil =>
        have hnil : n.fraction = [] := List.isEmpty_iff.mp hnil
        rw [if_neg (Nat.not_lt.mpr (hn hnil hexponent)), Numeral.value_of_whole hnil hexponent]
        exact ⟨_, rfl⟩
      next hsome =>
        rw [Numeral.value_of_parts fun hnil => absurd (List.isEmpty_iff.mpr hnil) hsome, hexponent]
        simp
  | some e =>
      have hchars : n.exponentChars = e.chars := by simp [Numeral.exponentChars, hexponent]
      rw [hchars, exponentPart_chars e hrest.endsDigits,
        Numeral.value_of_parts (by simp [hexponent]), hexponent]
      simp

/-! ### What is read is spelled -/

/-- What is left of a text without the piece that it begins with. -/
theorem eq_append_drop {piece : List Char} (h : piece <+: cs) :
    cs = piece ++ cs.drop piece.length :=
  (List.prefix_iff_eq_append.mp h).symm

/-- What `minusPart` gives with the minus in front is the text. -/
theorem eq_append_of_minusPart {negative : Bool} {signs : Nat} {body : List Char}
    (h : minusPart cs = (negative, signs, body)) :
    cs = (if negative then ['-'] else []) ++ body := by
  unfold minusPart at h
  split at h <;> cases h <;> rfl

theorem wholePart_isPrefix (body : List Char) : wholePart body <+: body := by
  unfold wholePart
  split
  next more => exact ⟨more, rfl⟩
  next => exact List.takeWhile_prefix _

/-- What `wholePart` finds are digits, and only a zero alone begins with a zero. -/
theorem wholePart_spec {body : List Char} (h : wholePart body ≠ []) :
    (∀ c ∈ wholePart body, isDigit c = true) ∧
      (wholePart body = ['0'] ∨ ∃ c more, wholePart body = c :: more ∧ c ≠ '0') := by
  unfold wholePart at h ⊢
  split at h
  next => exact ⟨by simp; decide, .inl rfl⟩
  next hzero =>
    refine ⟨List.all_eq_true.mp List.all_takeWhile, .inr ?_⟩
    cases body with
    | nil => exact absurd rfl h
    | cons c more =>
        rw [List.takeWhile_cons] at h ⊢
        split at h
        next hc => exact ⟨c, _, if_pos hc, fun heq => hzero more (heq ▸ rfl)⟩
        next => exact absurd rfl h

/-- What `fractionPart` finds are digits, and stands behind its point. -/
theorem fractionPart_spec (body : List Char) :
    (∀ c ∈ fractionPart body, isDigit c = true) ∧
      Numeral.fractionChars (fractionPart body) <+: body := by
  unfold fractionPart
  split
  next more =>
    refine ⟨List.all_eq_true.mp List.all_takeWhile, ?_⟩
    have hdigits : more.takeWhile isDigit <+: more := List.takeWhile_prefix _
    cases htake : more.takeWhile isDigit with
    | nil => exact List.nil_prefix
    | cons d digits =>
        rw [htake] at hdigits
        exact List.cons_prefix_cons.mpr ⟨rfl, hdigits⟩
  next => exact ⟨by simp, List.nil_prefix⟩

/-- What `exponentPart` finds is spelled by an `Exponent`. -/
theorem exists_exponent {value : Int} {length : Nat} (h : exponentPart cs = some (value, length)) :
    ∃ e : Exponent, cs = e.chars ++ cs.drop length ∧ value = e.value := by
  cases cs with
  | nil => cases h
  | cons letter cs =>
      by_cases hletter : letter = 'e' ∨ letter = 'E'
      · rw [exponentPart_cons hletter] at h
        obtain ⟨sign, hcs, hlength, hminus⟩ := exists_sign cs
        split at h
        next => cases h
        next hsome =>
          obtain ⟨rfl, rfl⟩ := Prod.mk.inj (Option.some.inj h)
          have hne : (signPart cs).2.2.takeWhile isDigit ≠ [] := by simpa using hsome
          let e : Exponent :=
            ⟨letter == 'E', sign, _, hne, List.all_eq_true.mp List.all_takeWhile⟩
          have hbody : Exponent.signChars sign ++ e.digits <+:
              Exponent.signChars sign ++ (signPart cs).2.2 :=
            (List.prefix_append_right_inj _).mpr (List.takeWhile_prefix _)
          have hchars : e.chars <+: letter :: cs := by
            refine List.cons_prefix_cons.mpr ⟨?_, hcs ▸ hbody⟩
            rcases hletter with rfl | rfl <;> rfl
          have hcount : e.chars.length =
              1 + (signPart cs).2.1 + ((signPart cs).2.2.takeWhile isDigit).length := by
            simp only [e, Exponent.chars, List.length_cons, List.length_append, hlength]
            omega
          refine ⟨e, hcount ▸ eq_append_drop hchars, ?_⟩
          simp only [e, Exponent.value, hminus, beq_iff_eq]
      · simp only [exponentPart, if_neg hletter] at h
        cases h

/-- **What is read as a number is spelled as one**: by a `Numeral` that is readable and has the
value that `readNumber` gives. -/
theorem exists_numeral_of_readNumber {i j : Nat} {value : Value}
    (h : readNumber i cs = .ok (value, j, rest)) :
    ∃ n : Numeral, n.IsReadable ∧ cs = n.chars ++ rest ∧ value = n.value := by
  unfold readNumber at h
  split at h
  next negative signs body heq =>
  have hcs := eq_append_of_minusPart heq
  dsimp only at h
  split at h
  next => cases h
  next hsome =>
    have hne : wholePart body ≠ [] := by simpa using hsome
    obtain ⟨hwhole, hzero⟩ := wholePart_spec hne
    have hbody := eq_append_drop (wholePart_isPrefix body)
    generalize body.drop (wholePart body).length = tail at h hbody
    generalize wholePart body = whole at h hbody hwhole hzero
    obtain ⟨hfraction, hpoint⟩ := fractionPart_spec tail
    have htail := eq_append_drop hpoint
    rw [length_fractionChars] at h
    generalize tail.drop (Numeral.fractionChars (fractionPart tail)).length = behind at h htail
    generalize fractionPart tail = fraction at h htail hfraction
    have hchars (e : Option Exponent) :
        cs = (⟨negative, whole, fraction, e, hwhole, hzero, hfraction⟩ : Numeral).chars ++ rest ↔
          behind = (e.map Exponent.chars).getD [] ++ rest := by
      rw [hcs, hbody, htail]
      simp only [Numeral.chars, Numeral.exponentChars, List.append_assoc,
        List.append_cancel_left_eq]
    cases hexponent : exponentPart behind with
    | none =>
        rw [hexponent] at h
        let n : Numeral := ⟨negative, _, _, none, hwhole, hzero, hfraction⟩
        dsimp only at h
        split at h
        next hnil =>
          have hnil : n.fraction = [] := List.isEmpty_iff.mp hnil
          split at h
          next => cases h
          next hcount =>
            cases h
            exact ⟨n, fun _ _ => Nat.not_lt.mp hcount, (hchars none).mpr rfl,
              (Numeral.value_of_whole hnil rfl).symm⟩
        next hsome =>
          have hsome : n.fraction ≠ [] := fun hnil => hsome (List.isEmpty_iff.mpr hnil)
          cases h
          refine ⟨n, fun hnil => absurd hnil hsome, (hchars none).mpr rfl, ?_⟩
          rw [Numeral.value_of_parts fun hnil => absurd hnil hsome]
          simp [n]
    | some found =>
        obtain ⟨exponent, length⟩ := found
        obtain ⟨e, hbehind, rfl⟩ := exists_exponent hexponent
        rw [hexponent] at h
        cases h
        refine ⟨⟨negative, _, _, some e, hwhole, hzero, hfraction⟩, ?_,
          (hchars (some e)).mpr hbehind, ?_⟩
        · exact fun _ hnone => nomatch hnone
        · rw [Numeral.value_of_parts (by simp)]
          simp

end Transcode.Value
