import Transcode.Decimal.Shortest
import Transcode.Text.Hex
import Transcode.Value.Basic

/-!
# Writing values

A saved value is JSON in ASCII alone, laid out with one item or entry to a line and two blanks for
each level of nesting. A character outside the printable ASCII ones is written by code point, and
one beyond `0xFFFF` as its two halves. A half that stands alone is written by its own code.

## Main definitions

* `Value.write` — the text of a value;
* `writeText` — the text of a text.
-/

namespace Transcode

open Text (hexDigits)

namespace Value

/-- An escape by code point, in four `hexDigits`. -/
def codeEscape (n : Nat) : List Char :=
  '\\' :: 'u' :: hexDigits 4 n

/-- One character of a written text: itself, one of the short escapes, or `codeEscape`s. -/
def writeChar (c : Char) : List Char :=
  let n := c.toNat
  if c = '"' then ['\\', '"']
  else if c = '\\' then ['\\', '\\']
  else if c = '\n' then ['\\', 'n']
  else if c = '\r' then ['\\', 'r']
  else if c = '\t' then ['\\', 't']
  else if n = 8 then ['\\', 'b']
  else if n = 12 then ['\\', 'f']
  else if 0x20 ≤ n ∧ n ≤ 0x7E then [c]
  else if n < 0x10000 then codeEscape n
  else codeEscape (0xD800 + (n - 0x10000) / 1024) ++ codeEscape (0xDC00 + (n - 0x10000) % 1024)

/-- One sign of a written text: `writeChar` of a character, and the `codeEscape` of a `Sign.half`.
-/
def writeSign : Sign → List Char
  | .char c => writeChar c
  | .half n => codeEscape (Sign.half n).code

/-- A text between double quotes: `writeSign` of each sign. -/
def writeText (t : Text) : List Char :=
  '"' :: t.flatMap writeSign ++ ['"']

/-- A new line at a level of nesting. -/
def newLine (level : Nat) : List Char :=
  '\n' :: List.replicate (2 * level) ' '

mutual

/-- The text of a value at a level of nesting. -/
def writeAt (level : Nat) : Value → List Char
  | .null => ['n', 'u', 'l', 'l']
  | .bool true => ['t', 'r', 'u', 'e']
  | .bool false => ['f', 'a', 'l', 's', 'e']
  | .int n => (toString n).toList
  | .float x => (x.text "Infinity" "NaN").toList
  | .text t => writeText t
  | .list [] => ['[', ']']
  | .list items =>
    '[' :: newLine (level + 1) ++ writeItems (level + 1) items ++ newLine level ++ [']']
  | .object [] => ['{', '}']
  | .object entries =>
    '{' :: newLine (level + 1) ++ writeEntries (level + 1) entries ++ newLine level ++ ['}']

/-- The items of a list, one to a line. -/
def writeItems (level : Nat) : List Value → List Char
  | [] => []
  | [item] => writeAt level item
  | item :: rest => writeAt level item ++ ',' :: newLine level ++ writeItems level rest

/-- The entries of an object, one to a line. -/
def writeEntries (level : Nat) : List (Text × Value) → List Char
  | [] => []
  | [(name, value)] => writeText name ++ ':' :: ' ' :: writeAt level value
  | (name, value) :: rest =>
    writeText name ++ ':' :: ' ' :: writeAt level value
      ++ ',' :: newLine level ++ writeEntries level rest

end

/-- The text of a value, by `writeAt` no nesting. -/
def write (value : Value) : List Char :=
  writeAt 0 value

end Value

end Transcode
