import Transcode.Entries
import Transcode.Text.Basic
import Transcode.Text.Number
import Transcode.Text.Split

/-!
# Text on lines

The help is laid out for a terminal of some width. Words go on a line as long as they fit, and a
word that is wider than a line has one of its own.

## Main definitions

* `terminalWidth` — the width of the terminal, as the environment gives it;
* `fill`, `fillFrom` — words on lines;
* `indented` — a line after some blanks.
-/

namespace Transcode.CommandLine

/-- The variable of the environment that gives the width of the terminal. -/
def widthVariable : String := "COLUMNS"

/-- The width of a terminal of which nothing is known. -/
def commonWidth : Nat := 80

/-- The most digits of a width. -/
def maxWidthDigits : Nat := 4300

/-- The width of the terminal: that which `widthVariable` gives, if it is greater than zero, and
otherwise `commonWidth`. -/
def terminalWidth (environment : Entries Text Text) : Nat :=
  let given := (Entries.get? (.ofString widthVariable) environment).map Text.plain
  match given.bind (Text.int? maxWidthDigits) with
  | some width => if 0 < width then width.toNat else commonWidth
  | none => commonWidth

/-- Blanks. -/
def blanks (n : Nat) : String :=
  String.ofList (List.replicate n ' ')

/-- A line after some blanks. -/
def indented (indent : Nat) (line : String) : String :=
  blanks indent ++ line

/-- The words of a line that has been begun and is `used` wide, and those of the lines after it,
which are `indented`. A word goes on a line as long as the line does not get wider than `width`. -/
def fillFrom (width indent : Nat) (used : Nat) (line : List String) :
    List String → List (List String)
  | [] => [line]
  | word :: rest =>
    if used + 1 + word.length ≤ width then
      fillFrom width indent (used + 1 + word.length) (line ++ [word]) rest
    else line :: fillFrom width indent (indent + word.length) [word] rest

/-- Words on lines by `fillFrom`, all of which are `indented`. -/
def fill (width indent : Nat) : List String → List String
  | [] => []
  | word :: rest =>
    (fillFrom width indent (indent + word.length) [word] rest).map fun line =>
      indented indent (Text.join " " line)

/-- `fillFrom` loses no word, and keeps their order. -/
theorem flatten_fillFrom (width indent used : Nat) (line words : List String) :
    (fillFrom width indent used line words).flatten = line ++ words := by
  induction words generalizing used line with
  | nil => simp [fillFrom]
  | cons word rest ih =>
    rw [fillFrom]
    split
    · rw [ih]
      simp
    · rw [List.flatten_cons, ih]
      simp

end Transcode.CommandLine
