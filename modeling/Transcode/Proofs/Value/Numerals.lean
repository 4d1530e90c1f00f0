import Transcode.Proofs.Value.Numbers
import Transcode.Value.Printer

/-!
# Written whole numbers

A whole number is written with its decimal digits, none of them a leading zero, and a sign in front
of it if it is negative. It is read back as long as it has no more digits than are read, and as long
as what stands behind it does not go on with the number.

## Main definitions

* `digitCount` — the number of digits of a whole number;
* `Numeral.ofNat` — the spelling of a whole number.

## Main results

* `readNumber_toDigits` — what a whole number is written with is read as that number;
* `exists_readValue_toString` — a whole number is read back.
-/

namespace Transcode.Value

variable {rest : List Char}

/-- The number of decimal digits of a whole number, without its sign. -/
def digitCount (n : Int) : Nat :=
  (Nat.toDigits 10 n.natAbs).length

/-! ### Digits -/

/-- `natOfDigits` reads `Nat.toDigits` back. -/
theorem natOfDigits_toDigits (n : Nat) : natOfDigits (Nat.toDigits 10 n) = n := by
  calc natOfDigits (Nat.toDigits 10 n)
      = Nat.ofDigitChars 10 (Nat.toDigits 10 n) 0 := by
        simp only [natOfDigits, Nat.ofDigitChars_eq_foldl, Nat.mul_comm]
    _ = n := Nat.ofDigitChars_ten_toDigits

/-- `Nat.toDigits` gives characters with `isDigit`. -/
theorem isDigit_of_mem_toDigits {n : Nat} {c : Char} (h : c ∈ Nat.toDigits 10 n) :
    isDigit c = true := by
  have hdigit := Nat.isDigit_of_mem_toDigits (by decide) (by decide) h
  rw [Char.isDigit_iff_toNat] at hdigit
  simp only [isDigit, Bool.and_eq_true, decide_eq_true_eq]
  exact hdigit

/-- `Nat.toDigits` has no leading zero, except for zero itself. -/
theorem toDigits_eq_zero_or (n : Nat) :
    Nat.toDigits 10 n = ['0'] ∨ ∃ c more, Nat.toDigits 10 n = c :: more ∧ c ≠ '0' := by
  induction n using Nat.strongRecOn with
  | _ n ih =>
      rw [Nat.toDigits_eq_if (by decide)]
      split
      next hlt =>
        have hall : ∀ m : Fin 10, [Nat.digitChar m] = ['0'] ∨ Nat.digitChar m ≠ '0' := by decide
        exact (hall ⟨n, hlt⟩).imp_right fun h => ⟨_, _, rfl, h⟩
      next hge =>
        -- the number without its last digit is not zero
        right
        rcases ih (n / 10) (Nat.div_lt_self (by omega) (by decide)) with hzero | ⟨c, more, hc, hne⟩
        · have hdiv := natOfDigits_toDigits (n / 10)
          rw [hzero] at hdiv
          have : n / 10 = 0 := hdiv.symm
          omega
        · exact ⟨c, _, by rw [hc, List.cons_append], hne⟩

/-! ### Numbers -/

/-- `Nat.toDigits` gives at least one digit. -/
theorem exists_cons_toDigits (n : Nat) :
    ∃ c more, Nat.toDigits 10 n = c :: more ∧ isDigit c = true := by
  obtain ⟨c, more, h⟩ := List.exists_cons_of_ne_nil (Nat.toDigits_ne_nil (n := n) (b := 10))
  exact ⟨c, more, h, isDigit_of_mem_toDigits (h ▸ List.mem_cons_self)⟩

/-- The spelling of a whole number: a minus perhaps, and its decimal digits. -/
def Numeral.ofNat (negative : Bool) (n : Nat) : Numeral where
  negative := negative
  whole := Nat.toDigits 10 n
  fraction := []
  exponent := none
  isDigit_whole _ h := isDigit_of_mem_toDigits h
  whole_eq := toDigits_eq_zero_or n
  isDigit_fraction _ h := absurd h List.not_mem_nil

/-- `readNumber` reads a sign and the digits of a number back, if they are no more than `maxDigits`.
-/
theorem readNumber_toDigits (negative : Bool) {n : Nat}
    (hcount : (Nat.toDigits 10 n).length ≤ maxDigits) (hrest : EndsNumber rest) (i : Nat) :
    ∃ j, readNumber i ((if negative then ['-'] else []) ++ Nat.toDigits 10 n ++ rest) =
      .ok (.int (if negative then -(n : Int) else n), j, rest) := by
  have hchars : (Numeral.ofNat negative n).chars =
      (if negative then ['-'] else []) ++ Nat.toDigits 10 n := by
    cases negative <;>
      simp [Numeral.ofNat, Numeral.chars, Numeral.fractionChars, Numeral.exponentChars]
  have hvalue : (Numeral.ofNat negative n).value =
      .int (if negative then -(n : Int) else n) := by
    rw [Numeral.value_of_whole rfl rfl, Numeral.ofNat, natOfDigits_toDigits]
  rw [← hchars, ← hvalue]
  exact exists_readNumber_chars _ (fun _ _ => hcount) hrest i

/-- The text of a whole number: its digits, with a sign if it is negative. -/
theorem exists_toList_toString (n : Int) :
    ∃ negative : Bool, (if negative then -(n.natAbs : Int) else n.natAbs) = n ∧
      (toString n).toList = (if negative then ['-'] else []) ++ Nat.toDigits 10 n.natAbs := by
  cases n with
  | ofNat m => exact ⟨false, rfl, Nat.toList_repr⟩
  | negSucc m =>
      refine ⟨true, rfl, ?_⟩
      show ("-" ++ m.succ.repr).toList = _
      rw [String.toList_append, Nat.toList_repr]
      rfl

/-- `readValue` is `readNumber` where a digit stands. -/
theorem readValue_of_digit {c : Char} (h : isDigit c = true) (fuel depth i : Nat)
    (cs : List Char) : readValue (fuel + 1) depth i (c :: cs) = readNumber i (c :: cs) := by
  rw [readValue]
  all_goals
    intro more heq
    obtain ⟨rfl, -⟩ := List.cons.inj heq
    exact absurd h (by decide)

/-- So it is where a minus and a digit stand. -/
theorem readValue_of_minus {c : Char} (h : isDigit c = true) (fuel depth i : Nat)
    (cs : List Char) :
    readValue (fuel + 1) depth i ('-' :: c :: cs) = readNumber i ('-' :: c :: cs) := by
  have hne : c ≠ 'I' := fun heq => absurd (heq ▸ h) (by decide)
  rw [readValue] <;> simp [hne]

/-- **A written whole number is read back** if it has no more than `maxDigits` digits. -/
theorem exists_readValue_toString {n : Int} (hcount : digitCount n ≤ maxDigits)
    (hrest : EndsNumber rest) (fuel depth i : Nat) :
    ∃ j, readValue (fuel + 1) depth i ((toString n).toList ++ rest) = .ok (.int n, j, rest) := by
  obtain ⟨negative, hn, htext⟩ := exists_toList_toString n
  obtain ⟨j, hj⟩ := readNumber_toDigits negative hcount hrest i
  obtain ⟨c, more, hc, hdigit⟩ := exists_cons_toDigits n.natAbs
  refine ⟨j, ?_⟩
  rw [htext]
  rw [hn, hc] at hj
  rw [hc, ← hj]
  cases negative with
  | false => exact readValue_of_digit hdigit fuel depth i _
  | true => exact readValue_of_minus hdigit fuel depth i _

end Transcode.Value
