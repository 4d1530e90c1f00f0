import Transcode.Text.Hex
import Transcode.Text.SystemName

/-!
# UTF-8

Files hold bytes and the program works on characters. Encoding always succeeds; decoding reads
one character after another and stops at the first byte that cannot belong to one, saying where
the trouble starts and how far it reaches.

## Main definitions

* `Utf8.encode` — the bytes of a text;
* `Utf8.decode` — the text of a byte sequence, or the first fault in it.
-/

namespace Transcode.Text.Utf8

/-- The bytes of one character: the fewest that hold its code point. -/
def encodeChar (c : Char) : List UInt8 :=
  let n := c.toNat
  if n < 0x80 then [UInt8.ofNat n]
  else if n < 0x800 then [UInt8.ofNat (0xC0 + n / 64), UInt8.ofNat (0x80 + n % 64)]
  else if n < 0x10000 then
    [UInt8.ofNat (0xE0 + n / 4096), UInt8.ofNat (0x80 + n / 64 % 64), UInt8.ofNat (0x80 + n % 64)]
  else
    [UInt8.ofNat (0xF0 + n / 262144), UInt8.ofNat (0x80 + n / 4096 % 64),
      UInt8.ofNat (0x80 + n / 64 % 64), UInt8.ofNat (0x80 + n % 64)]

/-- The bytes of a text: `encodeChar` of each character. -/
def encode (text : List Char) : List UInt8 :=
  text.flatMap encodeChar

/-- The bytes of a text, or the `SystemName.Fault` of the first `Sign.half`s in it. -/
def encodeText (t : Text) : Except SystemName.Fault (List UInt8) :=
  match SystemName.strictFault? t with
  | some fault => .error fault
  | none => .ok (encode t.plain.toList)

/-! ### Faults -/

/-- What is wrong with the bytes. -/
inductive Cause where
  /-- The byte begins no character. -/
  | invalidStart
  /-- A byte that should continue a character does not. -/
  | invalidContinuation
  /-- The bytes end inside a character. -/
  | truncated
  deriving DecidableEq, Repr

/-- The wording of a cause. -/
def Cause.text : Cause → String
  | .invalidStart => "invalid start byte"
  | .invalidContinuation => "invalid continuation byte"
  | .truncated => "unexpected end of data"

/-- The first place where a byte sequence is not UTF-8: the character that was begun there, by its
first byte, and the positions of the bytes that do belong to it. -/
structure Fault where
  cause : Cause
  byte : UInt8
  first : Nat
  last : Nat
  deriving DecidableEq, Repr

/-- One byte is named with its value, several are named by their positions. -/
def Fault.message (f : Fault) : String :=
  if f.first = f.last then
    "'utf-8' codec can't decode byte 0x" ++ String.ofList (hexDigits 2 f.byte.toNat)
      ++ " in position " ++ toString f.first ++ ": " ++ f.cause.text
  else
    "'utf-8' codec can't decode bytes in position " ++ toString f.first ++ "-"
      ++ toString f.last ++ ": " ++ f.cause.text

/-! ### Decoding -/

/-- How a character goes on after its first byte: the number of bytes that follow, and the bounds
of the first of them. The later ones always lie between `0x80` and `0xBF`. The bounds shut out
code points written too long, surrogates, and what lies beyond the last code point. -/
structure Continuation where
  count : Nat
  low : Nat
  high : Nat
  deriving DecidableEq, Repr

/-- The `Continuation` that a first byte calls for. -/
def continuation? (byte : Nat) : Option Continuation :=
  if byte < 0x80 then some ⟨0, 0, 0⟩
  else if byte < 0xC2 then none
  else if byte < 0xE0 then some ⟨1, 0x80, 0xBF⟩
  else if byte = 0xE0 then some ⟨2, 0xA0, 0xBF⟩
  else if byte = 0xED then some ⟨2, 0x80, 0x9F⟩
  else if byte < 0xF0 then some ⟨2, 0x80, 0xBF⟩
  else if byte = 0xF0 then some ⟨3, 0x90, 0xBF⟩
  else if byte < 0xF4 then some ⟨3, 0x80, 0xBF⟩
  else if byte = 0xF4 then some ⟨3, 0x80, 0x8F⟩
  else none

/-- The byte is a first continuation byte within the bounds. -/
def Continuation.admits (k : Continuation) (byte : UInt8) : Bool :=
  decide (k.low ≤ byte.toNat) && decide (byte.toNat ≤ k.high)

/-- The byte may continue a character. -/
def isTail (byte : UInt8) : Bool :=
  decide (0x80 ≤ byte.toNat) && decide (byte.toNat ≤ 0xBF)

/-- The six bits that a continuation byte carries. -/
def tailBits (byte : UInt8) : Nat :=
  byte.toNat % 64

/-- Decoding from a position on. A fault covers the bytes of the character begun so far that are
in order. -/
def decodeFrom (position : Nat) : List UInt8 → Except Fault (List Char)
  | [] => .ok []
  | a :: rest =>
    match continuation? a.toNat with
    | none => .error ⟨.invalidStart, a, position, position⟩
    | some ⟨0, _, _⟩ => (decodeFrom (position + 1) rest).map (Char.ofNat a.toNat :: ·)
    | some ⟨1, low, high⟩ =>
      match rest with
      | [] => .error ⟨.truncated, a, position, position⟩
      | b :: rest =>
        if !Continuation.admits ⟨1, low, high⟩ b then
          .error ⟨.invalidContinuation, a, position, position⟩
        else
          (decodeFrom (position + 2) rest).map (Char.ofNat (a.toNat % 32 * 64 + tailBits b) :: ·)
    | some ⟨2, low, high⟩ =>
      match rest with
      | [] => .error ⟨.truncated, a, position, position⟩
      | b :: rest =>
        if !Continuation.admits ⟨2, low, high⟩ b then
          .error ⟨.invalidContinuation, a, position, position⟩
        else
          match rest with
          | [] => .error ⟨.truncated, a, position, position + 1⟩
          | c :: rest =>
            if !isTail c then .error ⟨.invalidContinuation, a, position, position + 1⟩
            else
              (decodeFrom (position + 3) rest).map
                (Char.ofNat (a.toNat % 16 * 4096 + tailBits b * 64 + tailBits c) :: ·)
    | some ⟨_, low, high⟩ =>
      match rest with
      | [] => .error ⟨.truncated, a, position, position⟩
      | b :: rest =>
        if !Continuation.admits ⟨3, low, high⟩ b then
          .error ⟨.invalidContinuation, a, position, position⟩
        else
          match rest with
          | [] => .error ⟨.truncated, a, position, position + 1⟩
          | c :: rest =>
            if !isTail c then .error ⟨.invalidContinuation, a, position, position + 1⟩
            else
              match rest with
              | [] => .error ⟨.truncated, a, position, position + 2⟩
              | d :: rest =>
                if !isTail d then .error ⟨.invalidContinuation, a, position, position + 2⟩
                else
                  (decodeFrom (position + 4) rest).map
                    (Char.ofNat (a.toNat % 8 * 262144 + tailBits b * 4096 + tailBits c * 64
                      + tailBits d) :: ·)

/-- The text of a byte sequence, or the first fault in it, by `decodeFrom` its beginning. -/
def decode (bytes : List UInt8) : Except Fault (List Char) :=
  decodeFrom 0 bytes

end Transcode.Text.Utf8
