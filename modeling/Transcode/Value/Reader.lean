import Transcode.Text.Hex
import Transcode.Text.Lines
import Transcode.Value.Basic

/-!
# Reading values

The text of a value is JSON, with three numbers beside the usual ones: `NaN`, `Infinity` and
`-Infinity`. A number is whole when it has neither a fraction nor an exponent. Of several entries
with one name the last one counts.

Lists and objects may be nested up to a greatest depth.

Reading goes from left to right and stops at the first fault, which is told by its cause and place.
Where a value should begin and none does, the place is that of the character found there, also
when that character begins a longer piece that turns out to be wrong (`tru`, `-`, `.5`).

## Main definitions

* `Value.read` — the value that a text spells, or the first fault in the text;
* `Value.ReadFault` — the faults.
-/

namespace Transcode

open Text (hexValue? Position positionAt)
open Decimal (Binary64)

namespace Value

/-! ### Faults -/

/-- Why a text spells no value. -/
inductive ReadCause where
  | valueExpected
  | nameExpected
  | colonExpected
  | commaExpected
  | moreText
  | unterminated
  | controlCharacter
  | unknownEscape
  | unknownCodeEscape
  | byteOrderMark
  deriving DecidableEq, Repr

/-- The wording of a cause. -/
def ReadCause.text : ReadCause → String
  | .valueExpected => "Expecting value"
  | .nameExpected => "Expecting property name enclosed in double quotes"
  | .colonExpected => "Expecting ':' delimiter"
  | .commaExpected => "Expecting ',' delimiter"
  | .moreText => "Extra data"
  | .unterminated => "Unterminated string starting at"
  | .controlCharacter => "Invalid control character at"
  | .unknownEscape => "Invalid \\escape"
  | .unknownCodeEscape => "Invalid \\uXXXX escape"
  | .byteOrderMark => "Unexpected UTF-8 BOM (decode using utf-8-sig)"

/-- What can be nested. -/
inductive Nest where
  | list
  | object
  deriving DecidableEq, Repr

/-- What a text calls it. -/
def Nest.name : Nest → String
  | .list => "array"
  | .object => "object"

/-- The first fault in a text: its cause and its place, a whole number with more digits than are
read, or a list or object that is nested too deep. While reading, a place is a number of
characters. -/
inductive ReadFault (α : Type) where
  | malformed (cause : ReadCause) (place : α)
  | tooManyDigits (count : Nat)
  | tooDeep (nest : Nest)
  deriving DecidableEq, Repr

/-- The same fault with its place told in another way, as `Position` for instance. -/
def ReadFault.map {α β : Type} (f : α → β) : ReadFault α → ReadFault β
  | .malformed cause place => .malformed cause (f place)
  | .tooManyDigits count => .tooManyDigits count
  | .tooDeep nest => .tooDeep nest

/-- The most digits of a whole number that is read. -/
def maxDigits : Nat := 4300

/-- The greatest depth to which lists and objects are nested. Reading takes a nested call for each,
and there can be a thousand calls in all; those of whoever asks for the value are taken off, as they
are in one place, for all who ask. -/
def maxDepth : Nat := 987

/-- A fault in words. -/
def ReadFault.message : ReadFault Position → String
  | .malformed cause place =>
    cause.text ++ ": line " ++ toString place.line ++ " column " ++ toString place.column
      ++ " (char " ++ toString place.index ++ ")"
  | .tooManyDigits count =>
    "Exceeds the limit (" ++ toString maxDigits ++ " digits) for integer string conversion: value has "
      ++ toString count ++ " digits; use sys.set_int_max_str_digits() to increase the limit"
  | .tooDeep nest =>
    "maximum recursion depth exceeded while decoding a JSON " ++ nest.name
      ++ " from a unicode string"

/-! ### Pieces -/

/-- What a reader of a piece gives: the piece, the place after it, and the text from there on. -/
abbrev Piece (α : Type) := Except (ReadFault Nat) (α × Nat × List Char)

/-- A fault at a place. -/
def fault {α : Type} (cause : ReadCause) (i : Nat) : Piece α :=
  .error (.malformed cause i)

/-- The place and the text after any blanks. -/
def skipBlanks (i : Nat) : List Char → Nat × List Char
  | ' ' :: rest => skipBlanks (i + 1) rest
  | '\t' :: rest => skipBlanks (i + 1) rest
  | '\n' :: rest => skipBlanks (i + 1) rest
  | '\r' :: rest => skipBlanks (i + 1) rest
  | rest => (i, rest)

/-- The value of four hexadecimal digits. -/
def hex4? (a b c d : Char) : Option Nat :=
  match hexValue? a, hexValue? b, hexValue? c, hexValue? d with
  | some p, some q, some r, some s => some (((p * 16 + q) * 16 + r) * 16 + s)
  | _, _, _, _ => none

/-- The first half of a pair that stands for one code point beyond `0xFFFF`. -/
def isHighHalf (n : Nat) : Bool :=
  decide (0xD800 ≤ n) && decide (n ≤ 0xDBFF)

/-- The second half of such a pair: what `isHighHalf` is for the first. -/
def isLowHalf (n : Nat) : Bool :=
  decide (0xDC00 ≤ n) && decide (n ≤ 0xDFFF)

/-- The character of a pair of an `isHighHalf` code and an `isLowHalf` one. -/
def charOfHalves (high low : Nat) : Char :=
  Char.ofNat (0x10000 + (high - 0xD800) * 1024 + (low - 0xDC00))

/-- The character that a backslash and a letter stand for. -/
def simpleEscape? : Char → Option Char
  | '"' => some '"'
  | '\\' => some '\\'
  | '/' => some '/'
  | 'b' => some (Char.ofNat 8)
  | 'f' => some (Char.ofNat 12)
  | 'n' => some '\n'
  | 'r' => some '\r'
  | 't' => some '\t'
  | _ => none

/-- The sign whose code follows `\u`, and whether an `isLowHalf` follows that belongs to it. A half
without its other half stays a `Sign.half`. An escape is read only with a character after it, which
in a closed text there always is. -/
def readCode (i : Nat) : List Char → Except (ReadFault Nat) (Sign × Bool)
  | a :: b :: c :: d :: rest@(_ :: _) =>
    match hex4? a b c d with
    | none => .error (.malformed .unknownCodeEscape i)
    | some code =>
      if isHighHalf code then
        match rest with
        | '\\' :: 'u' :: a :: b :: c :: d :: _ :: _ =>
          match hex4? a b c d with
          | none => .error (.malformed .unknownCodeEscape (i + 6))
          | some low =>
            if isLowHalf low then .ok (charOfHalves code low, true)
            else .ok (.ofCode code, false)
        | _ => .ok (.ofCode code, false)
      else .ok (.ofCode code, false)
  | _ => .error (.malformed .unknownCodeEscape i)

/-- A sign in front of a text that was read. -/
def cons (s : Sign) : Piece Text → Piece Text
  | .ok (t, i, rest) => .ok (s :: t, i, rest)
  | .error e => .error e

/-- The signs of a text up to its closing quote. The text begins at the place `start`; the
`skip` is the number of characters that belong to an escape already read. -/
def readSigns (start : Nat) : (skip i : Nat) → List Char → Piece Text
  | _, _, [] => fault .unterminated start
  | skip + 1, i, _ :: rest => readSigns start skip (i + 1) rest
  | 0, i, '"' :: rest => .ok ([], i + 1, rest)
  | 0, i, '\\' :: rest =>
    match rest with
    | [] => fault .unterminated start
    | 'u' :: more =>
      match readCode (i + 1) more with
      | .error e => .error e
      | .ok (c, pair) => cons c (readSigns start (if pair then 11 else 5) (i + 1) rest)
    | e :: _ =>
      match simpleEscape? e with
      | none => fault .unknownEscape i
      | some c => cons c (readSigns start 1 (i + 1) rest)
  | 0, i, c :: rest =>
    if c.toNat ≤ 0x1F then fault .controlCharacter i
    else cons c (readSigns start 0 (i + 1) rest)

/-- A text whose opening quote, at the place `start`, has been read: its signs by `readSigns`. -/
def readText (start : Nat) (rest : List Char) : Piece Text :=
  readSigns start 0 (start + 1) rest

/-! ### Numbers -/

/-- An ASCII digit. -/
def isDigit (c : Char) : Bool :=
  decide ('0' ≤ c) && decide (c ≤ '9')

/-- The number that decimal digits spell. -/
def natOfDigits (digits : List Char) : Nat :=
  digits.foldl (fun n c => n * 10 + (c.toNat - '0'.toNat)) 0

/-- The digits of the whole part: a zero alone, or digits that begin with another one. -/
def wholePart : List Char → List Char
  | '0' :: _ => ['0']
  | cs => cs.takeWhile isDigit

/-- The digits of a fraction: none unless a digit follows the point. -/
def fractionPart : List Char → List Char
  | '.' :: rest => rest.takeWhile isDigit
  | _ => []

/-- An exponent, and how many characters spell it: none unless a digit follows its letter and its
sign. -/
def exponentPart (cs : List Char) : Option (Int × Nat) :=
  match cs with
  | e :: rest =>
    if e = 'e' ∨ e = 'E' then
      let (negative, signs, rest) :=
        match rest with
        | '-' :: rest => (true, 1, rest)
        | '+' :: rest => (false, 1, rest)
        | rest => (false, 0, rest)
      let digits := rest.takeWhile isDigit
      if digits.isEmpty then none
      else
        let n : Int := natOfDigits digits
        some (if negative then -n else n, 1 + signs + digits.length)
    else none
  | [] => none

/-- A number at the place `i`: a `wholePart`, and a `fractionPart` and an `exponentPart` if there
are any. -/
def readNumber (i : Nat) (cs : List Char) : Piece Value :=
  let (negative, signs, body) :=
    match cs with
    | '-' :: rest => (true, 1, rest)
    | _ => (false, 0, cs)
  let whole := wholePart body
  if whole.isEmpty then fault .valueExpected i
  else
    let body := body.drop whole.length
    let fraction := fractionPart body
    let fractionLength := if fraction.isEmpty then 0 else fraction.length + 1
    let body := body.drop fractionLength
    let i := i + signs + whole.length + fractionLength
    match exponentPart body with
    | none =>
      if fraction.isEmpty then
        if maxDigits < whole.length then .error (.tooManyDigits whole.length)
        else
          let n : Int := natOfDigits whole
          .ok (.int (if negative then -n else n), i, body)
      else
        .ok (.float (decimal negative (whole ++ fraction) (-fraction.length)), i, body)
    | some (exponent, length) =>
      .ok (.float (decimal negative (whole ++ fraction) (exponent - fraction.length)),
        i + length, body.drop length)
where
  /-- The number that digits and a power of ten spell. -/
  decimal (negative : Bool) (digits : List Char) (exponent : Int) : Binary64 :=
    Binary64.ofDecimal negative (natOfDigits digits) (digits.dropWhile (· == '0')).length exponent

/-! ### Values -/

mutual

/-- A value at the place `i`, in which lists and objects may be nested to the given depth. Every
nested reading is paid for out of `fuel`; twice the length of the text is enough, since a list or an
object costs two and its opening bracket is a character. -/
def readValue : (fuel depth : Nat) → (i : Nat) → List Char → Piece Value
  | 0, _, i, _ => fault .valueExpected i
  | fuel + 1, depth, i, cs =>
    match cs with
    | '"' :: rest =>
      match readText i rest with
      | .ok (s, i, rest) => .ok (.text s, i, rest)
      | .error e => .error e
    | '{' :: rest =>
      match depth with
      | 0 => .error (.tooDeep .object)
      | depth + 1 =>
        match skipBlanks (i + 1) rest with
        | (i, '}' :: rest) => .ok (.object [], i + 1, rest)
        | (i, rest) =>
          match readEntries fuel depth i rest with
          | .ok (entries, i, rest) => .ok (.object (Entries.ofList entries), i, rest)
          | .error e => .error e
    | '[' :: rest =>
      match depth with
      | 0 => .error (.tooDeep .list)
      | depth + 1 =>
        match skipBlanks (i + 1) rest with
        | (i, ']' :: rest) => .ok (.list [], i + 1, rest)
        | (i, rest) =>
          match readItems fuel depth i rest with
          | .ok (items, i, rest) => .ok (.list items, i, rest)
          | .error e => .error e
    | 'n' :: 'u' :: 'l' :: 'l' :: rest => .ok (.null, i + 4, rest)
    | 't' :: 'r' :: 'u' :: 'e' :: rest => .ok (.bool true, i + 4, rest)
    | 'f' :: 'a' :: 'l' :: 's' :: 'e' :: rest => .ok (.bool false, i + 5, rest)
    | 'N' :: 'a' :: 'N' :: rest => .ok (.float .nan, i + 3, rest)
    | 'I' :: 'n' :: 'f' :: 'i' :: 'n' :: 'i' :: 't' :: 'y' :: rest =>
      .ok (.float (.infinite false), i + 8, rest)
    | '-' :: 'I' :: 'n' :: 'f' :: 'i' :: 'n' :: 'i' :: 't' :: 'y' :: rest =>
      .ok (.float (.infinite true), i + 9, rest)
    | cs => readNumber i cs

/-- The items of a list, from the first of those that are left to the closing bracket. -/
def readItems : (fuel depth : Nat) → (i : Nat) → List Char → Piece (List Value)
  | 0, _, i, _ => fault .valueExpected i
  | fuel + 1, depth, i, cs =>
    match readValue fuel depth i cs with
    | .error e => .error e
    | .ok (item, i, rest) =>
      match skipBlanks i rest with
      | (i, ']' :: rest) => .ok ([item], i + 1, rest)
      | (i, ',' :: rest) =>
        let (i, rest) := skipBlanks (i + 1) rest
        match readItems fuel depth i rest with
        | .ok (items, i, rest) => .ok (item :: items, i, rest)
        | .error e => .error e
      | (i, _) => fault .commaExpected i

/-- The entries of an object, from the first of those that are left to the closing brace. -/
def readEntries : (fuel depth : Nat) → (i : Nat) → List Char → Piece (List (Text × Value))
  | 0, _, i, _ => fault .valueExpected i
  | fuel + 1, depth, i, cs =>
    match cs with
    | '"' :: rest =>
      match readText i rest with
      | .error e => .error e
      | .ok (name, i, rest) =>
        match skipBlanks i rest with
        | (i, ':' :: rest) =>
          let (i, rest) := skipBlanks (i + 1) rest
          match readValue fuel depth i rest with
          | .error e => .error e
          | .ok (value, i, rest) =>
            match skipBlanks i rest with
            | (i, '}' :: rest) => .ok ([(name, value)], i + 1, rest)
            | (i, ',' :: rest) =>
              let (i, rest) := skipBlanks (i + 1) rest
              match readEntries fuel depth i rest with
              | .ok (entries, i, rest) => .ok ((name, value) :: entries, i, rest)
              | .error e => .error e
            | (i, _) => fault .commaExpected i
        | (i, _) => fault .colonExpected i
    | _ => fault .nameExpected i

end

/-- The value that the whole text spells, by `readValue`, with places told as numbers of characters.
-/
def readWhole (text : List Char) : Except (ReadFault Nat) Value :=
  match text with
  | '\uFEFF' :: _ => .error (.malformed .byteOrderMark 0)
  | _ =>
    let (i, rest) := skipBlanks 0 text
    match readValue (2 * text.length + 2) maxDepth i rest with
    | .error e => .error e
    | .ok (value, i, rest) =>
      match skipBlanks i rest with
      | (_, []) => .ok value
      | (i, _) => .error (.malformed .moreText i)

/-- The value that a text spells, or the first `ReadFault` in the text. -/
def read (text : List Char) : Except (ReadFault Position) Value :=
  (readWhole text).mapError (ReadFault.map (positionAt text))

end Value

end Transcode
