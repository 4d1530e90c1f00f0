import Transcode.Preset.Order
import Transcode.Sorting

/-!
# Sorting members

Members are sorted by `Comparison.less`. It has no answer for items that are not of one axis, so a
list with such items may end in a fault, which is that of the first comparison without an answer.

## Main definitions

* `sortMembers` — the items in their order, or in the opposite one.
-/

namespace Transcode

/-- The items in the order of `Comparison.less`. -/
def sortItems (items : List (Option Member)) : Except Fault (List (Option Member)) :=
  Sorting.sort Comparison.less.compare items

/-- The items in their order, or in the opposite one if it is `descending`. Equal items keep their
places, so for the opposite order the list is turned around before and after. -/
def sortMembers (items : List (Option Member)) (descending : Bool) :
    Except Fault (List (Option Member)) :=
  if descending then (sortItems items.reverse).map List.reverse else sortItems items

end Transcode
