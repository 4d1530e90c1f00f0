import Transcode.Preset.Basic
import Transcode.Preset.Error
import Transcode.Text.Word

/-!
# Reading presets

A text made of words joined by single hyphens asks for a preset of the catalogue; every other text
is a custom preset. The words name at most one member of each axis, in any order and case, and a
codec must be among them. A quality that is not named is the normal one. The result has to be in
the catalogue, where only the presence of a quality counts.

## Main definitions

* `isTokenForm` — the text is made of words joined by hyphens;
* `Preset.parse` — the preset of a text, or what is wrong with it.
-/

namespace Transcode

/-! ### The form of the text -/

/-- After the first character of a word: more of it, or a hyphen and another word. -/
def isTokenTail : List Char → Bool
  | [] => true
  | ['-'] => false
  | '-' :: c :: rest => Text.isWord c && isTokenTail rest
  | c :: rest => Text.isWord c && isTokenTail rest

/-- The text is made of words joined by single hyphens, each of at least one word character. -/
def isTokenForm : List Char → Bool
  | [] => false
  | c :: rest => Text.isWord c && isTokenTail rest

/-! ### The words -/

/-- The member that a word names, on whichever `Axis`. No two axes share a name. -/
def Member.find? (word : String) : Option Member :=
  Axis.all.findSome? fun axis => axis.find? word

namespace Preset

/-- What the words read so far have named. -/
structure Named where
  codec : Option Codec := none
  accelerator : Option Accelerator := none
  quality : Option Quality := none
  deriving DecidableEq, Repr

namespace Named

/-- The members of `Named`, in the order of the axes. -/
def members (n : Named) : List Member :=
  (n.codec.map Member.codec).toList ++ (n.accelerator.map Member.accelerator).toList
    ++ (n.quality.map Member.quality).toList

/-- One more member, on an axis that has none yet. -/
def add (n : Named) (member : Member) : Except PresetError Named :=
  match member with
  | .codec c =>
    match n.codec with
    | none => .ok { n with codec := some c }
    | some first => .error (.repeatedAxis (.codec first) member)
  | .accelerator a =>
    match n.accelerator with
    | none => .ok { n with accelerator := some a }
    | some first => .error (.repeatedAxis (.accelerator first) member)
  | .quality q =>
    match n.quality with
    | none => .ok { n with quality := some q }
    | some first => .error (.repeatedAxis (.quality first) member)

/-- The words of a text, one after another, by `add`. The first one that is out of place ends the
reading. -/
def addWords (text : String) (n : Named) : List String → Except PresetError Named
  | [] => .ok n
  | word :: rest =>
    match Member.find? word with
    | none => .error (.unknownWord text word)
    | some member =>
      match n.add member with
      | .error e => .error e
      | .ok n => addWords text n rest

/-- The preset that has been `Named`, if `Catalog.supports` it, of `Quality.normal` unless another
one is named. -/
def preset (n : Named) : Except PresetError Preset :=
  match n.codec with
  | none => .error .noCodec
  | some codec =>
    if Catalog.supports codec n.accelerator n.quality.isSome then
      .ok (.predefined (some codec) n.accelerator (some (n.quality.getD .normal)))
    else .error (.unsupported n.members)

end Named

/-- The words of a text. -/
def words (text : String) : List String :=
  (Text.splitAt '-' text.toList).map String.ofList

/-- The preset of the catalogue that the `words` of a text ask for. -/
def ofTokenForm (text : String) : Except PresetError Preset :=
  match Named.addWords text {} (words text) with
  | .error e => .error e
  | .ok named => named.preset

/-- The preset of a text, or what is wrong with it: one of the catalogue for a text with
`isTokenForm`, and a custom one for any other. A `Sign.half` belongs to no word. -/
def parse (text : Text) : Except PresetError Preset :=
  match text.string? with
  | some s => if isTokenForm s.toList then ofTokenForm s else .ok (.custom (some text))
  | none => .ok (.custom (some text))

end Preset

end Transcode
