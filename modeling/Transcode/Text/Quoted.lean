import Transcode.Text.Basic
import Transcode.Text.Hex
import Transcode.Text.Printable

/-!
# Quoted text

Messages show a text between quotes, on one line and with nothing hidden: the quote in use and the
backslash are escaped, and so are every character that is not printable and every half. The quote is
the single one, unless the text holds a single quote and no double quote.
-/

namespace Transcode.Text

/-- The quote for a text. -/
def quoteFor (text : Text) : Char :=
  if text.contains (.char '\'') && !text.contains (.char '"') then '"' else '\''

/-- A character between the given quotes. The common controls have escapes of one letter; other
characters without `isPrintable` are written by code point, in two, four or eight `hexDigits`. -/
def quoteChar (quote c : Char) : List Char :=
  if c = quote ∨ c = '\\' then ['\\', c]
  else if c = '\n' then ['\\', 'n']
  else if c = '\r' then ['\\', 'r']
  else if c = '\t' then ['\\', 't']
  else if isPrintable c then [c]
  else if c.toNat < 0x100 then '\\' :: 'x' :: hexDigits 2 c.toNat
  else if c.toNat < 0x10000 then '\\' :: 'u' :: hexDigits 4 c.toNat
  else '\\' :: 'U' :: hexDigits 8 c.toNat

/-- A sign between the given quotes: `quoteChar` of a character, and a `Sign.half` by its code, in
four digits. -/
def quoteSign (quote : Char) : Sign → List Char
  | .char c => quoteChar quote c
  | .half n => '\\' :: 'u' :: hexDigits 4 (Sign.half n).code

/-- A text between the quotes of `quoteFor`. -/
def quotedChars (text : Text) : List Char :=
  let quote := quoteFor text
  quote :: text.flatMap (quoteSign quote) ++ [quote]

/-- A text between quotes, as a string: `quotedChars`, which are all characters. -/
def quoted (text : Text) : String :=
  String.ofList (quotedChars text)

end Transcode.Text
