import Transcode.Decimal.Shortest
import Transcode.Text.Quoted
import Transcode.Value.Basic

/-!
# Values in messages

A message shows a value on one line: texts between quotes, lists in brackets, objects in braces.
-/

namespace Transcode

open Text (quoted)

namespace Value

mutual

/-- A value as messages show it, with its texts `Text.quoted`. -/
def shown : Value → String
  | .null => "None"
  | .bool b => if b then "True" else "False"
  | .int n => toString n
  | .float x => x.text "inf" "nan"
  | .text t => quoted t
  | .list items => "[" ++ shownItems items ++ "]"
  | .object entries => "\x7b" ++ shownEntries entries ++ "\x7d"

/-- The items of a list. -/
def shownItems : List Value → String
  | [] => ""
  | [item] => shown item
  | item :: rest => shown item ++ ", " ++ shownItems rest

/-- The entries of an object. -/
def shownEntries : List (Text × Value) → String
  | [] => ""
  | [(name, value)] => quoted name ++ ": " ++ shown value
  | (name, value) :: rest => quoted name ++ ": " ++ shown value ++ ", " ++ shownEntries rest

end

/-- A value as a message itself: a text as it is, and any other value as it is `shown`. -/
def message : Value → Text
  | .text t => t
  | value => value.shown

end Value

end Transcode
