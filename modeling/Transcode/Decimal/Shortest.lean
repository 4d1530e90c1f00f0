import Transcode.Decimal.Binary64

/-!
# Shortest decimal text

A number is written with the fewest digits that read back as the same number, and among those with
the digits nearest to it. The numbers that read back as a given one form an interval: half way to
its neighbours on either side, the ends included when its mantissa is even. The search goes from
one digit up and tries, on each decimal grid, the two grid points around the number.

## Main definitions

* `Binary64.shortest` — the digits and their power of ten;
* `Binary64.text` — the number as text.
-/

namespace Transcode.Decimal

namespace Binary64

/-- A positive number as quotients over one denominator: the number, the ends of the interval that
reads back as it, and whether the ends belong to the interval. -/
structure Interval where
  value : Nat
  low : Nat
  high : Nat
  den : Nat
  closed : Bool

/-- The interval of `mantissa * 2 ^ exponent`. Below a power of two the neighbour is half as far. -/
def interval (mantissa : Nat) (exponent : Int) : Interval :=
  let (n, d) := ratioPow 2 (exponent - 2)
  let below := if mantissa = Nat.pow 2 52 ∧ minExponent < exponent then 1 else 2
  { value := 4 * mantissa * n
    low := (4 * mantissa - below) * n
    high := (4 * mantissa + 2) * n
    den := d
    closed := mantissa % 2 == 0 }

/-- The grid point `digits * 10 ^ power` lies in the interval. -/
def Interval.contains (i : Interval) (digits : Nat) (power : Int) : Bool :=
  let (n, d) := ratioPow 10 power
  let point := digits * n * i.den
  if i.closed then decide (i.low * d ≤ point) && decide (point ≤ i.high * d)
  else decide (i.low * d < point) && decide (point < i.high * d)

/-- The exponent of the greatest power of ten that is at most the number. -/
def Interval.floorLog10 (i : Interval) : Int :=
  let guess := floorLog2 i.value i.den * 30103 / 100000
  let atMost (e : Int) : Bool :=
    let (n, d) := ratioPow 10 e
    decide (n * i.den ≤ i.value * d)
  if atMost (guess + 1) then guess + 1 else if atMost guess then guess else guess - 1

/-- The better of the two points around the number on the grid of `10 ^ power`, if one of them
reads back: the nearer one, and of two equally near the even one. -/
def Interval.onGrid? (i : Interval) (power : Int) : Option Nat :=
  let (n, d) := ratioPow 10 power
  let step := n * i.den
  let below := i.value * d / step
  let rest := i.value * d % step
  let lower := i.contains below power
  let upper := i.contains (below + 1) power
  if lower && upper then
    if 2 * rest < step then some below
    else if step < 2 * rest then some (below + 1)
    else if below % 2 = 0 then some below
    else some (below + 1)
  else if lower then some below
  else if upper then some (below + 1)
  else none

/-- The first of at most `fuel` finer and finer grids, from that of `10 ^ power`, with a point that
reads back. -/
def Interval.search (i : Interval) (power : Int) : (fuel : Nat) → Nat × Int
  | 0 => (i.value / i.den, 0)
  | fuel + 1 =>
    match i.onGrid? power with
    | some digits => (digits, power)
    | none => i.search (power - 1) fuel

/-- The fewest digits that read back as `mantissa * 2 ^ exponent`, with their power of ten, by
`Interval.search`. At most 17 digits are needed. -/
def shortest (mantissa : Nat) (exponent : Int) : Nat × Int :=
  let i := interval mantissa exponent
  i.search i.floorLog10 17

/-! ### Text -/

/-- The digits of a number without the zeros at its end. -/
def trimZeros (digits : List Char) : List Char :=
  (digits.reverse.dropWhile (· == '0')).reverse

/-- An exponent: its sign, and at least two digits. -/
def exponentText (e : Int) : List Char :=
  let digits := Nat.toDigits 10 e.natAbs
  (if e < 0 then '-' else '+') :: (if digits.length < 2 then '0' :: digits else digits)

/-- Digits with the decimal point `point` places after the first of them. Numbers from `10 ^ -4`
to below `10 ^ 16` are written out, with a digit on either side of the point; others as a number
between one and ten with an exponent. -/
def layout (digits : List Char) (point : Int) : List Char :=
  if -4 < point ∧ point ≤ 16 then
    if point ≤ 0 then '0' :: '.' :: List.replicate (-point).toNat '0' ++ digits
    else if digits.length ≤ point.toNat then
      digits ++ List.replicate (point.toNat - digits.length) '0' ++ ['.', '0']
    else digits.take point.toNat ++ '.' :: digits.drop point.toNat
  else
    let mark := 'e' :: exponentText (point - 1)
    match digits with
    | [] => mark
    | [d] => d :: mark
    | d :: rest => d :: '.' :: rest ++ mark

/-- The text of `mantissa * 2 ^ exponent`: the `layout` of its `shortest` digits. -/
def finiteText (mantissa : Nat) (exponent : Int) : List Char :=
  if mantissa = 0 then ['0', '.', '0']
  else
    let (number, power) := shortest mantissa exponent
    let digits := Nat.toDigits 10 number
    layout (trimZeros digits) (power + digits.length)

/-- The number as text, with the given words for infinity and for what is no number. -/
def text (infinity notNumber : String) : Binary64 → String
  | .finite negative mantissa exponent =>
    (if negative then "-" else "") ++ String.ofList (finiteText mantissa exponent)
  | .infinite negative => (if negative then "-" else "") ++ infinity
  | .nan => notNumber

end Binary64

end Transcode.Decimal
