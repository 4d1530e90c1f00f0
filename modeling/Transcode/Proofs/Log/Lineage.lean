import Transcode.Proofs.Entries.Repeated
import Transcode.Proofs.Log.Tree

/-!
# Where loggers stand

The place of a logger in the tree hangs on names only: on those that have been made, and on the
order in which they were made. What the loggers hold does not come into it. So the tree can be
looked at alone, with all loggers bare, and there it does not matter what was done to the loggers
before one more is made.

The loggers that a record gets to are those of a line of names, which is read off the bare tree.

## Main definitions

* `Registry.map` — all loggers changed at once;
* `Registry.bare` — the tree alone;
* `Registry.lineage` — the names of a logger and of those above it.

## Main results

* `make_map` — a logger finds the same place, whatever the loggers hold;
* `bare_update`, `bare_attach`, `bare_setProgramLevel` — changes of loggers leave the tree as it is;
* `chain_eq_of_bare` — a logger and those above it, by their names in the bare tree.
-/

namespace Transcode.Log.Registry

variable {change : Logger → Logger} {r t : Registry} {name : Text}

/-- All loggers are changed, the root logger included. -/
def map (change : Logger → Logger) (r : Registry) : Registry where
  root := change r.root
  entries := Entries.mapValues (Node.map change) r.entries

/-- The tree alone: the loggers hold nothing. -/
def bare (r : Registry) : Registry :=
  r.map fun _ => {}

/-! ### Making loggers -/

/-- What stands at a name. -/
theorem get?_map (change : Logger → Logger) (r : Registry) (name : Text) :
    Entries.get? name (r.map change).entries =
      (Entries.get? name r.entries).map (Node.map change) :=
  Entries.get?_mapValues _ _ _

/-- `made?` finds something under the same names. -/
theorem isSome_made?_map (change : Logger → Logger) (r : Registry) (name : Text) :
    ((r.map change).made? name).isSome = (r.made? name).isSome := by
  rw [made?, get?_map, made?]
  cases Entries.get? name r.entries with
  | none => rfl
  | some node => cases node <;> rfl

/-- `below` is the same. -/
theorem below_map (change : Logger → Logger) (r : Registry) (name : Text) :
    (r.map change).below name = r.below name := by
  rw [below, get?_map, below]
  cases Entries.get? name r.entries with
  | none => rfl
  | some node => cases node <;> rfl

theorem enter_map (change : Logger → Logger) (r : Registry) (name : Text) (node : Node) :
    (r.map change).enter name (node.map change) = (r.enter name node).map change := by
  rw [enter, map, Entries.put_mapValues]
  rfl

theorem link_map (change : Logger → Logger) (r : Registry) (name parent : Text) :
    (r.map change).link name parent = (r.link name parent).map change := by
  rw [link, get?_map, link]
  cases Entries.get? name r.entries with
  | none => rfl
  | some node =>
      cases node with
      | made logger above => exact enter_map change r name (.made logger parent)
      | placeholder below => rfl

theorem adopt_map (change : Logger → Logger) (name : Text) (r : Registry) (child : Text) :
    adopt name (r.map change) child = (adopt name r child).map change := by
  rw [adopt, get?_map, adopt]
  cases Entries.get? child r.entries with
  | none => rfl
  | some node =>
      cases node with
      | made logger parent =>
          simp only [Option.map_some, Node.map]
          split
          · rfl
          · exact link_map change r child name
      | placeholder below => rfl

theorem foldl_adopt_map (change : Logger → Logger) (name : Text) (children : List Text)
    (r : Registry) :
    children.foldl (adopt name) (r.map change) = (children.foldl (adopt name) r).map change := by
  induction children generalizing r with
  | nil => rfl
  | cons child rest ih => rw [List.foldl_cons, adopt_map, ih, List.foldl_cons]

/-- `climb` leads to the same logger. -/
theorem climb_map (change : Logger → Logger) (name : Text) (above : List Text) (r : Registry) :
    climb name above (r.map change) =
      ((climb name above r).1, (climb name above r).2.map change) := by
  induction above generalizing r with
  | nil => rfl
  | cons first rest ih =>
      rw [climb, climb, isSome_made?_map]
      split
      next => rfl
      next =>
        have henter := enter_map change r first (.placeholder (r.below first ++ [name]))
        rw [Node.map] at henter
        rw [below_map, henter, ih]

/-- **`make` finds the same place**, whatever the loggers hold, if a bare one stays bare. -/
theorem make_map (hbare : change {} = {}) (r : Registry) (name : Text) :
    (r.map change).make name = (r.make name).map change := by
  have henter := enter_map change r name (.made {} rootName)
  rw [Node.map, hbare] at henter
  rw [make, make, isSome_made?_map]
  split
  next => rfl
  next =>
    dsimp only
    rw [below_map, henter, foldl_adopt_map, climb_map, link_map]

/-- `make` finds the same place in the tree alone. -/
theorem bare_make (r : Registry) (name : Text) : (r.make name).bare = r.bare.make name :=
  (make_map rfl r name).symm

/-! ### Changes of loggers -/

/-- No change of all loggers shows in the tree. -/
theorem bare_map (change : Logger → Logger) (r : Registry) : (r.map change).bare = r.bare := by
  have hnode : ∀ node : Node,
      (node.map change).map (fun _ => {}) = node.map fun _ => {} := fun node => by
    cases node <;> rfl
  simp only [bare, map, Entries.mapValues, List.map_map, mk.injEq, true_and]
  exact List.map_congr_left fun entry _ => Prod.ext rfl (hnode entry.2)

/-- `update` does not show in the tree. -/
theorem bare_update (r : Registry) (name : Text) (change : Logger → Logger) :
    (r.update name change).bare = r.bare := by
  rw [update]
  split
  next => rfl
  next =>
    split
    next node hnode =>
      have hsame : (node.map change).map (fun _ => {}) = node.map fun _ => {} := by
        cases node <;> rfl
      rw [bare, ← enter_map, hsame, enter_map, enter, Entries.put_eq_self hnode]
      rfl
    next => rfl

/-- `forget` does not show in the tree. -/
theorem bare_forget (r : Registry) : r.forget.bare = r.bare :=
  bare_map Logger.forget r

theorem bare_attach (name : Text) (level : Nat) (sinks : List Sink) (r : Registry) :
    (r.attach name level sinks).bare = r.bare := by
  rw [attach, bare_forget, bare_update]

theorem bare_setProgramLevel (level : Nat) (r : Registry) :
    (r.setProgramLevel level).bare = r.bare := by
  have hfold : ∀ (names : List Text) (r : Registry),
      (names.foldl (fun r name => r.update name (Logger.setLevel level)) r).bare = r.bare := by
    intro names
    induction names with
    | nil => exact fun _ => rfl
    | cons first rest ih => exact fun r => (ih _).trans (bare_update r first _)
  rw [setProgramLevel, bare_forget, hfold]

/-! ### Lines of names -/

/-- The names of a logger, of the loggers above it, and of the root logger. -/
def lineageFrom (r : Registry) : (fuel : Nat) → (name : Text) → List Text
  | 0, _ => [rootName]
  | fuel + 1, name =>
    match Entries.get? name r.entries with
    | some (.made _ parent) => name :: r.lineageFrom fuel parent
    | _ => [rootName]

/-- The names of a logger, of the loggers above it, and of the root logger, by `lineageFrom` with
enough fuel. -/
def lineage (r : Registry) (name : Text) : List Text :=
  r.lineageFrom (name.length + 1) name

/-- What the loggers hold does not come into `lineageFrom`. -/
theorem lineageFrom_map (change : Logger → Logger) (r : Registry) (fuel : Nat) (name : Text) :
    (r.map change).lineageFrom fuel name = r.lineageFrom fuel name := by
  induction fuel generalizing name with
  | zero => rfl
  | succ fuel ih =>
      rw [lineageFrom, get?_map, lineageFrom]
      cases Entries.get? name r.entries with
      | none => rfl
      | some node =>
          cases node with
          | made logger parent => exact congrArg (name :: ·) (ih parent)
          | placeholder below => rfl

/-- `chainFrom` has the loggers of `lineageFrom`, if no other logger has the name of the root
logger. The induction goes up the tree. -/
theorem chainFrom_eq_map_logger (hroot : Entries.get? rootName r.entries = none) (fuel : Nat)
    (name : Text) : r.chainFrom fuel name = (r.lineageFrom fuel name).map r.logger := by
  have hend : [r.root] = [rootName].map r.logger := by
    rw [List.map_singleton, logger, if_pos rfl]
  induction fuel generalizing name with
  | zero => exact hend
  | succ fuel ih =>
      have hname (node : Node) (hnode : Entries.get? name r.entries = some node) :
          name ≠ rootName := by
        rintro rfl
        rw [hroot] at hnode
        cases hnode
      rw [chainFrom, lineageFrom]
      cases hnode : Entries.get? name r.entries with
      | none => exact hend
      | some node =>
          cases node with
          | placeholder below => exact hend
          | made found parent =>
              dsimp only
              rw [ih, List.map_cons, logger_of_get? (hname _ hnode) hnode]

/-- **A logger and those above it**, by their names in any registry that has the same `bare` tree.
-/
theorem chain_eq_of_bare (h : r.bare = t.bare) (hroot : Entries.get? rootName t.entries = none)
    (name : Text) : r.chain name = (t.lineage name).map r.logger := by
  have hfree : Entries.get? rootName r.entries = none := by
    have hsame := get?_map (fun _ => {}) r rootName
    rw [← bare, h, bare, get?_map, hroot] at hsame
    exact Option.map_eq_none_iff.mp hsame.symm
  have hlineage : r.lineage name = t.lineage name := by
    rw [lineage, ← lineageFrom_map (fun _ => {}), ← bare, h, bare, lineageFrom_map, lineage]
  rw [chain, chainFrom_eq_map_logger hfree, ← lineage, hlineage]

end Transcode.Log.Registry
