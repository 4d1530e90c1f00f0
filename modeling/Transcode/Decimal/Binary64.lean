/-!
# Numbers of double precision

A number with a fraction or an exponent is kept as the nearest number of the 64-bit binary format:
a mantissa of at most 53 bits times a power of two, or one of the values beside them. All
arithmetic is on whole numbers, so the rounding is exact.

## Main definitions

* `Binary64` — the numbers of the format;
* `Binary64.ofDecimal` — the number nearest to a decimal one, a half going to the even mantissa.
-/

namespace Transcode.Decimal

/-- A number of the 64-bit binary format. A finite one is `mantissa * 2 ^ exponent`, with its sign
apart so that zero has two; the exponent is the least that the format allows for the number. -/
inductive Binary64 where
  | finite (negative : Bool) (mantissa : Nat) (exponent : Int)
  | infinite (negative : Bool)
  | nan
  deriving DecidableEq, Repr

namespace Binary64

/-- The exponent of the smallest numbers. -/
def minExponent : Int := -1074

/-- The exponent of the greatest numbers. -/
def maxExponent : Int := 971

/-- Zero, with a sign. -/
def zero (negative : Bool) : Binary64 :=
  .finite negative 0 minExponent

/-- `base ^ exponent` over one, or one over it when the exponent is negative. -/
def ratioPow (base : Nat) (exponent : Int) : Nat × Nat :=
  if 0 ≤ exponent then (base.pow exponent.toNat, 1) else (1, base.pow (-exponent).toNat)

/-- The quotient rounded to the nearest whole number, a half going to the even one. -/
def roundHalfEven (num den : Nat) : Nat :=
  let q := num / den
  let twice := 2 * (num % den)
  if twice < den then q
  else if den < twice then q + 1
  else if q % 2 = 0 then q
  else q + 1

/-- The exponent of the greatest power of two that is at most `num / den`. -/
def floorLog2 (num den : Nat) : Int :=
  let guess : Int := (num.log2 : Int) - (den.log2 : Int)
  let (n, d) := ratioPow 2 guess
  if den * n ≤ num * d then guess else guess - 1

/-- The finite number nearest to a positive quotient, or infinity when it lies beyond them all. -/
def ofRatio (negative : Bool) (num den : Nat) : Binary64 :=
  let exponent := max (floorLog2 num den - 52) minExponent
  let (n, d) := ratioPow 2 exponent
  let mantissa := roundHalfEven (num * d) (den * n)
  let (mantissa, exponent) :=
    if mantissa = Nat.pow 2 53 then (Nat.pow 2 52, exponent + 1) else (mantissa, exponent)
  if maxExponent < exponent then .infinite negative else .finite negative mantissa exponent

/-- The number nearest to `digits * 10 ^ exponent`, with `count` the number of digits. What is far
outside the range of the format is told by its size alone, before any power is formed. -/
def ofDecimal (negative : Bool) (digits count : Nat) (exponent : Int) : Binary64 :=
  let size := exponent + count
  if digits = 0 then zero negative
  else if 310 < size then .infinite negative
  else if size < -330 then zero negative
  else
    let (n, d) := ratioPow 10 exponent
    ofRatio negative (digits * n) d

/-- Equality of values: the two zeros are equal, and what is no number equals nothing. -/
def same : Binary64 → Binary64 → Bool
  | .finite s m q, .finite t n r => (m == n && q == r && s == t) || (m == 0 && n == 0)
  | .infinite s, .infinite t => s == t
  | _, _ => false

/-- The signed quotient of a finite number: numerator and denominator. -/
def ratio? : Binary64 → Option (Int × Nat)
  | .finite negative mantissa exponent =>
    let (n, d) := ratioPow 2 exponent
    let num : Int := (mantissa * n : Nat)
    some (if negative then -num else num, d)
  | _ => none

end Binary64

end Transcode.Decimal
