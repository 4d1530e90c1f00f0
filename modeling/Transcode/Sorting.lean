/-!
# Sorting by comparisons

A list is sorted by asking of two items at a time whether the one is `less` than the other. The
answers alone order the list. A question may also end in a fault, and the first one that does is the
fault of the whole sorting.

Which questions are asked, and in what order, is fixed. The list is cut into runs. A run goes on as
long as its items rise, or as long as they fall, and is then turned around. It is filled up to a
least length with the items that follow, and `insert` finds the place of each by halving. Two runs
next to each other are merged in the order of their `power`, the first binary place in which their
middles differ as fractions of the whole; the greater power goes first. Items that are not told
apart keep their order.

## Main definitions

* `firstRun`, `insert`, `nextRun` — the runs of a list;
* `merge` — two runs as one;
* `Run`, `power` — a run with its place, and when it is merged with the one behind it;
* `mergeAbove`, `mergeAll`, `sweep` — the merging of all runs;
* `sort` — the whole sorting.
-/

namespace Transcode.Sorting

variable {α ε : Type} (less : α → α → Except ε Bool)

/-! ### Runs -/

/-- The items that go on from the one `before` them: each is `less` than the one before it if they
are `falling`, and none is otherwise. -/
def trend (falling : Bool) (before : α) : List α → Except ε (List α)
  | [] => return []
  | item :: rest => do
    if (← less item before) = falling then return item :: (← trend falling item rest)
    else return []

/-- The run that the items begin with, in order. -/
def firstRun (first : α) : List α → Except ε (List α)
  | [] => return [first]
  | second :: rest => do
    let falling ← less second first
    let run := first :: second :: (← trend less falling second rest)
    return if falling then run.reverse else run

/-- A run with one more item, behind those that the item is not `less` than. The item is compared
with the one in the middle, and then inserted on the one side of it or on the other. -/
def insert (item : α) (run : List α) : Except ε (List α) :=
  match _hdrop : run.drop (run.length / 2) with
  | [] => return [item]
  | middle :: back => do
    let front := run.take (run.length / 2)
    if ← less item middle then return (← insert item front) ++ middle :: back
    else return front ++ middle :: (← insert item back)
termination_by run.length
decreasing_by
  all_goals
    have hlength := congrArg List.length _hdrop
    rw [List.length_drop, List.length_cons] at hlength
  · rw [List.length_take]
    omega
  · omega

/-- The run that the items begin with, filled up with those behind it to the `least` length, if
there are so many. -/
def nextRun (least : Nat) (first : α) (rest : List α) : Except ε (List α) := do
  let run ← firstRun less first rest
  let behind := rest.drop (run.length - 1)
  (behind.take (least - run.length)).foldlM (fun run item => insert less item run) run

/-- The least length of a run other than the last one: that of the whole list if it is below 64, and
otherwise a length from 32 to 64 of which the whole is almost a power of two. -/
def leastLength (total : Nat) : Nat :=
  let unit := Nat.pow 2 (total.log2 - 5)
  (total + unit - 1) / unit

/-! ### Merging -/

/-- Two runs as one. An item of the second run goes first only if it is `less` than that of the
first run which it is compared with. -/
def merge : List α → List α → Except ε (List α)
  | [], b => return b
  | a, [] => return a
  | x :: a, y :: b => do
    if ← less y x then return y :: (← merge (x :: a) b) else return x :: (← merge a (y :: b))
termination_by a b => a.length + b.length

/-- Some items next to each other in the list, by the place of the first one, and in order. -/
structure Run (α : Type) where
  start : Nat
  items : List α

/-- The place behind a run. -/
def Run.stop (run : Run α) : Nat :=
  run.start + run.items.length

/-- The middle of a run, counted in halves of items. -/
def Run.middle (run : Run α) : Nat :=
  run.start + run.stop

/-- A run and the one behind it as one. -/
def Run.merge (a b : Run α) : Except ε (Run α) := do
  return ⟨a.start, ← Sorting.merge less a.items b.items⟩

/-- The power of a run and the one behind it: the first binary place in which their middles differ,
as fractions of the whole. -/
def power (total : Nat) (a b : Run α) : Nat :=
  let places := List.range (total.log2 + 2)
  (places.find? fun k =>
    a.middle * Nat.pow 2 k / (2 * total) != b.middle * Nat.pow 2 k / (2 * total)).getD
      places.length

/-- The `last` run is merged with those before it, nearest first, as long as their `power` is
greater than the `least`. Each run before is given with the power of it and the run behind it. -/
def mergeAbove (least : Nat) (last : Run α) :
    List (Nat × Run α) → Except ε (Run α × List (Nat × Run α))
  | [] => return (last, [])
  | (power, run) :: before => do
    if least < power then mergeAbove least (← run.merge less last) before
    else return (last, (power, run) :: before)

/-- All runs are merged, from the `last` one on. A run between two others goes with the shorter one,
or with the last one if neither is shorter. -/
def mergeAll (last : Run α) : List (Run α) → Except ε (Run α)
  | [] => return last
  | [run] => run.merge less last
  | run :: earlier :: before => do
    if earlier.items.length < last.items.length then
      mergeAll last ((← earlier.merge less run) :: before)
    else mergeAll (← run.merge less last) (earlier :: before)
termination_by before => before.length

/-- The runs of the items that are left are found one after another, and merged with those before
them. -/
def sweep (total : Nat) (last : Run α) (before : List (Nat × Run α)) :
    List α → Except ε (Run α)
  | [] => mergeAll less last (before.map (·.2))
  | first :: rest => do
    let items ← nextRun less (leastLength total) first rest
    let run : Run α := ⟨last.stop, items⟩
    let place := power total last run
    let left ← mergeAbove less place last before
    sweep total run ((place, left.1) :: left.2) (rest.drop (items.length - 1))
termination_by items => items.length
decreasing_by simp only [List.length_drop, List.length_cons]; omega

/-- The items in their order. -/
def sort : List α → Except ε (List α)
  | [] => return []
  | first :: rest => do
    let total := rest.length + 1
    let items ← nextRun less (leastLength total) first rest
    return (← sweep less total ⟨0, items⟩ [] (rest.drop (items.length - 1))).items

end Transcode.Sorting
