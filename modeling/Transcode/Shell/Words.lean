import Transcode.Text.Basic

/-!
# Shell words

A text of arguments is read as a POSIX shell reads a line: words are separated by unquoted blanks,
single quotes keep everything up to the next one, double quotes keep everything but a backslash
before a double quote or a backslash, and elsewhere a backslash keeps the sign after it. The
parts of a word stand next to each other, so `a'b c'd` is one word; an empty quotation is an empty
word. There are no comments, variables or operators.

The reader is one recursion on the text, in one of six modes. In every mode but `blank` a word has
been begun, and the first word of the result is the rest of it.

## Main definitions

* `Words.split` — the words of a text, or why it has none.
-/

namespace Transcode.Shell

/-- Why a text cannot be split: it ends inside a quotation, or after a backslash. -/
inductive SplitFault where
  | unclosedQuote
  | missingEscaped
  deriving DecidableEq, Repr

/-- A fault in words. -/
def SplitFault.message : SplitFault → String
  | .unclosedQuote => "No closing quotation"
  | .missingEscaped => "No escaped character"

namespace Words

/-- Where the reader stands. -/
inductive Mode where
  /-- Between words. -/
  | blank
  /-- In a word, outside quotes. -/
  | word
  /-- Between single quotes. -/
  | single
  /-- Between double quotes. -/
  | double
  /-- After a backslash outside quotes. -/
  | escaped
  /-- After a backslash between double quotes. -/
  | doubleEscaped
  deriving DecidableEq, Repr

/-- The blanks that separate words. -/
def isBlank : Sign → Bool
  | .char c => c == ' ' || c == '\t' || c == '\r' || c == '\n'
  | .half _ => false

/-- The `Mode` after a sign outside quotes that opens a quotation or escapes the next sign; `none`
for a sign that stands for itself. -/
def opens? : Sign → Option Mode
  | .char '\'' => some .single
  | .char '"' => some .double
  | .char '\\' => some .escaped
  | _ => none

/-- A sign in front of the first word. -/
def prepend (s : Sign) : List Text → List Text
  | [] => [[s]]
  | word :: words => (s :: word) :: words

/-- The words from here on, read in a `Mode`. -/
def readFrom : Mode → Text → Except SplitFault (List Text)
  | .blank, [] => .ok []
  | .word, [] => .ok [[]]
  | .single, [] => .error .unclosedQuote
  | .double, [] => .error .unclosedQuote
  | .escaped, [] => .error .missingEscaped
  | .doubleEscaped, [] => .error .missingEscaped
  | .blank, s :: rest =>
    if isBlank s then readFrom .blank rest
    else
      match opens? s with
      | some mode => readFrom mode rest
      | none => (readFrom .word rest).map (prepend s)
  | .word, s :: rest =>
    if isBlank s then (readFrom .blank rest).map ([] :: ·)
    else
      match opens? s with
      | some mode => readFrom mode rest
      | none => (readFrom .word rest).map (prepend s)
  | .single, s :: rest =>
    if s = .char '\'' then readFrom .word rest else (readFrom .single rest).map (prepend s)
  | .double, s :: rest =>
    if s = .char '"' then readFrom .word rest
    else if s = .char '\\' then readFrom .doubleEscaped rest
    else (readFrom .double rest).map (prepend s)
  | .escaped, s :: rest => (readFrom .word rest).map (prepend s)
  | .doubleEscaped, s :: rest =>
    if s = .char '"' ∨ s = .char '\\' then (readFrom .double rest).map (prepend s)
    else (readFrom .double rest).map fun words => prepend (.char '\\') (prepend s words)

/-- The words of a text, or why it has none: `readFrom` between words. -/
def split (text : Text) : Except SplitFault (List Text) :=
  readFrom .blank text

end Words

end Transcode.Shell
