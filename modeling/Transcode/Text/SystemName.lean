import Transcode.Text.Basic
import Transcode.Text.Hex

/-!
# Names for the system

The system names files and variables by bytes. A text is given to it in UTF-8, and a half from
`0xDC80` to `0xDCFF` as the one byte from `0x80` to `0xFF` that it stands for. The other halves have
no bytes, so a text with one of them is no name.

## Main definitions

* `SystemName.byteCount` — the number of bytes of a name;
* `SystemName.fault?` — the first halves in a name that have no bytes;
* `SystemName.strictFault?` — the first halves in a text of which none has a byte.

## Main results

* `faultFrom?_eq_none_iff`, `strictFault?_eq_none_iff` — when there is no fault.
-/

namespace Transcode.Text.SystemName

/-- A `Sign.half` that stands for a byte. -/
def isByte (n : Fin 0x800) : Bool :=
  decide (0x480 ≤ n.val) && decide (n.val ≤ 0x4FF)

/-- The number of bytes of a sign that has some. -/
def signBytes : Sign → Nat
  | .char c => c.utf8Size
  | .half _ => 1

/-- The number of bytes of a name: the sum of `signBytes`. -/
def byteCount (name : Text) : Nat :=
  name.foldl (fun count sign => count + signBytes sign) 0

/-- Halves without bytes: the first one by its `Sign.code` and its place, and the place of the last
half of those right behind it. -/
structure Fault where
  code : Nat
  first : Nat
  last : Nat
  deriving DecidableEq, Repr

/-- One half is named with its code, several are named by their places. -/
def Fault.message (f : Fault) : String :=
  if f.first = f.last then
    "'utf-8' codec can't encode character '\\u" ++ String.ofList (hexDigits 4 f.code)
      ++ "' in position " ++ toString f.first ++ ": surrogates not allowed"
  else
    "'utf-8' codec can't encode characters in position " ++ toString f.first ++ "-"
      ++ toString f.last ++ ": surrogates not allowed"

/-- The first halves without bytes from a `place` on, where `hasByte` tells which halves have one.
-/
def faultFrom? (hasByte : Fin 0x800 → Bool) (place : Nat) : Text → Option Fault
  | [] => none
  | .char _ :: rest => faultFrom? hasByte (place + 1) rest
  | .half n :: rest =>
    if hasByte n then faultFrom? hasByte (place + 1) rest
    else some ⟨(Sign.half n).code, place, place + (rest.takeWhile Sign.isHalf).length⟩

/-- The first halves in a name that have no bytes, where those with `isByte` have one. -/
def fault? (name : Text) : Option Fault :=
  faultFrom? isByte 0 name

/-- The first halves in a text, where no `Sign.half` has a byte. -/
def strictFault? (t : Text) : Option Fault :=
  faultFrom? (fun _ => false) 0 t

/-- `faultFrom?` finds nothing exactly if each `Sign.half` has a byte. -/
theorem faultFrom?_eq_none_iff {hasByte : Fin 0x800 → Bool} {place : Nat} {t : Text} :
    faultFrom? hasByte place t = none ↔ ∀ n, .half n ∈ t → hasByte n = true := by
  induction t generalizing place with
  | nil => simp [faultFrom?]
  | cons sign rest ih =>
    cases sign with
    | char c => simp [faultFrom?, ih]
    | half n =>
      by_cases h : hasByte n
      · simp [faultFrom?, ih, h]
      · simp [faultFrom?, h]

/-- `strictFault?` finds nothing exactly if there is no `Sign.half`. -/
theorem strictFault?_eq_none_iff {t : Text} : strictFault? t = none ↔ t.HasNoHalf := by
  rw [strictFault?, faultFrom?_eq_none_iff, hasNoHalf_iff]
  simp

/-- `ofString` of any string is a name. -/
theorem fault?_ofString (s : String) : fault? (ofString s) = none :=
  faultFrom?_eq_none_iff.mpr fun n h => absurd h (hasNoHalf_iff.mp (hasNoHalf_ofString s) n)

end Transcode.Text.SystemName
