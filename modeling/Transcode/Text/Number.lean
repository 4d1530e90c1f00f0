import Transcode.Text.Word

/-!
# Whole numbers in texts

A whole number is spelled by decimal digits of any script, perhaps with a sign before them, with
single underscores between them, and with blanks around it all.

## Main definitions

* `digitValue?` — the value of a decimal digit;
* `int?` — the number that a text spells.
-/

namespace Transcode.Text

/-- The blanks around a number: those of ASCII and those beyond it. -/
def isBlank (c : Char) : Bool :=
  inRanges c.toNat
    [⟨0x9, 0xd⟩, ⟨0x20, 0x20⟩, ⟨0x85, 0x85⟩, ⟨0xa0, 0xa0⟩, ⟨0x1680, 0x1680⟩, ⟨0x2000, 0x200a⟩,
      ⟨0x2028, 0x2029⟩, ⟨0x202f, 0x202f⟩, ⟨0x205f, 0x205f⟩, ⟨0x3000, 0x3000⟩]

/-- The value of a decimal digit, by its place in `decimalDigitRanges`. The digits of a script stand
in their order from zero on, and each range begins with a zero. -/
def digitValue? (c : Char) : Option Nat :=
  let holds (range : CodeRange) := decide (range.first ≤ c.toNat) && decide (c.toNat ≤ range.last)
  (decimalDigitRanges.find? holds).map fun range => (c.toNat - range.first) % 10

/-- The digits of a number, each after another one with at most one underscore in between. -/
def digits? : List Char → Option (List Nat)
  | [] => none
  | [c] => (digitValue? c).map fun d => [d]
  | c :: '_' :: rest => do
    let d ← digitValue? c
    let ds ← digits? rest
    return d :: ds
  | c :: rest => do
    let d ← digitValue? c
    let ds ← digits? rest
    return d :: ds

/-- The number of some digits, as `digits?` finds them. -/
def natOfDigits (digits : List Nat) : Nat :=
  digits.foldl (fun n d => n * 10 + d) 0

/-- The text without the characters around it that are `isBlank`. -/
def stripBlanks (text : List Char) : List Char :=
  ((text.dropWhile isBlank).reverse.dropWhile isBlank).reverse

/-- The number that a text spells after `stripBlanks`, if it has at most `most` digits. -/
def int? (most : Nat) (text : String) : Option Int :=
  let (negative, body) :=
    match stripBlanks text.toList with
    | '-' :: rest => (true, rest)
    | '+' :: rest => (false, rest)
    | rest => (false, rest)
  match digits? body with
  | some digits =>
    if most < digits.length then none
    else
      let n : Int := natOfDigits digits
      some (if negative then -n else n)
  | none => none

end Transcode.Text
