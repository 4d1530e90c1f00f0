import Transcode.Entries
import Transcode.Log.Logger

/-!
# The tree of loggers

Loggers are made by name, and names with dots form a tree: `a.b` is below `a`. Above all of them is
the root logger. A logger that is made is put below the nearest one above it; the names between the
two get placeholders, which know of it, and when one of those names gets a logger in turn, that one
is put in between.

A logger without a level of its own takes that of the nearest logger above it that has one. A record
that the logger lets through goes to the handlers of the logger, of each logger above it, and of the
root logger; each handler has a level of its own, and the levels of the loggers above do not count.

## Main definitions

* `Registry` — the loggers that have been made;
* `Registry.make` — a logger is made, unless it has been;
* `Registry.chain` — a logger and those above it;
* `Registry.threshold`, `Registry.admits` — the level that a logger goes by, and what it lets
  through;
* `Registry.handlersFor` — the handlers that write a record.
-/

namespace Transcode.Log

/-- The name of the root logger. -/
def rootName : Text := "root"

/-- The names above a name, nearest first, as the reversed name is read: what is before a dot,
unless that is nothing. The sign before a dot does not end a name above, even if it is a dot. -/
def namesAbove : Text → List Text
  | .char '.' :: c :: before => (c :: before).reverse :: namesAbove before
  | _ :: before => namesAbove before
  | [] => []

/-- What stands at a name: a logger with the name of the one above it, or a placeholder with the
names of the loggers that have been made below it. -/
inductive Node where
  | made (logger : Logger) (parent : Text)
  | placeholder (below : List Text)
  deriving DecidableEq, Repr

/-- A change of the logger, if there is one. -/
def Node.map (change : Logger → Logger) : Node → Node
  | .made logger parent => .made (change logger) parent
  | .placeholder below => .placeholder below

/-- The loggers that have been made, by `Node`s. The root logger has no entry. -/
structure Registry where
  root : Logger := { level := Level.warning }
  entries : Entries Text Node := []
  deriving DecidableEq, Repr

namespace Registry

/-- The logger of a name other than the root logger's, if it has been made. -/
def made? (r : Registry) (name : Text) : Option Logger :=
  match Entries.get? name r.entries with
  | some (.made logger _) => some logger
  | _ => none

/-- The logger of a name, which `made?` finds unless it is the root logger. -/
def logger (r : Registry) (name : Text) : Logger :=
  if name = rootName then r.root else (r.made? name).getD {}

/-- The loggers that have been made, in the order of their entries. -/
def loggers (r : Registry) : List (Text × Logger) :=
  r.entries.filterMap fun
    | (name, .made logger _) => some (name, logger)
    | (_, .placeholder _) => none

/-- Something else at a name. -/
def enter (r : Registry) (name : Text) (node : Node) : Registry :=
  { r with entries := Entries.put name node r.entries }

/-- The logger of a name is changed, if there is one. -/
def update (r : Registry) (name : Text) (change : Logger → Logger) : Registry :=
  if name = rootName then { r with root := change r.root }
  else
    match Entries.get? name r.entries with
    | some node => r.enter name (node.map change)
    | none => r

/-! ### Making loggers -/

/-- The loggers that the placeholder of a name knows of. -/
def below (r : Registry) (name : Text) : List Text :=
  match Entries.get? name r.entries with
  | some (.placeholder below) => below
  | _ => []

/-- A logger is put below another one. -/
def link (r : Registry) (name parent : Text) : Registry :=
  match Entries.get? name r.entries with
  | some (.made logger _) => r.enter name (.made logger parent)
  | _ => r

/-- A logger that has just been made takes its place right above another one, unless the name of the
one that is there begins with its own, as that of a logger in between does. The name of the root
logger counts here too, so what is right below the root logger stays there if it begins so. -/
def adopt (name : Text) (r : Registry) (child : Text) : Registry :=
  match Entries.get? child r.entries with
  | some (.made _ parent) =>
    if name.isPrefixOf parent then r else r.link child name
  | _ => r

/-- The name of the first logger above a name, among `namesAbove`, which is the root logger if there
is no other, and the registry in which the placeholders on the way know of the name. -/
def climb (name : Text) : List Text → Registry → Text × Registry
  | [], r => (rootName, r)
  | above :: rest, r =>
    if (r.made? above).isSome then (above, r)
    else climb name rest (r.enter above (.placeholder (r.below above ++ [name])))

/-- A logger is made, unless `made?` finds it: it is put below the logger of `climb`, and it may
`adopt` those that a placeholder in its place knew of. -/
def make (r : Registry) (name : Text) : Registry :=
  if name = rootName ∨ (r.made? name).isSome then r
  else
    let placed := (r.below name).foldl (adopt name) (r.enter name (.made {} rootName))
    let (parent, climbed) := climb name (namesAbove name.reverse) placed
    climbed.link name parent

/-! ### Levels and handlers -/

/-- A logger, the loggers above it, and the root logger. A name above is shorter, so a `fuel` beyond
the length of the name leads all the way up. -/
def chainFrom (r : Registry) : (fuel : Nat) → (name : Text) → List Logger
  | 0, _ => [r.root]
  | fuel + 1, name =>
    match Entries.get? name r.entries with
    | some (.made logger parent) => logger :: r.chainFrom fuel parent
    | _ => [r.root]

/-- A logger, the loggers above it, and the root logger, by `chainFrom` with enough fuel. -/
def chain (r : Registry) (name : Text) : List Logger :=
  r.chainFrom (name.length + 1) name

/-- The level that a logger goes by: the first on its `chain` that is not `Level.unset`. -/
def threshold (r : Registry) (name : Text) : Nat :=
  (((r.chain name).map Logger.level).find? (· != Level.unset)).getD Level.unset

/-- A logger lets records of a level through: by `Logger.decision?`, and otherwise if the level is
one and is not below the `threshold`. -/
def admits (r : Registry) (name : Text) (level : Nat) : Bool :=
  ((r.logger name).decision? level).getD
    (level != Level.unset && decide (r.threshold name ≤ level))

/-- Whether a logger `admits` records of a level is remembered. -/
def settle (r : Registry) (name : Text) (level : Nat) : Registry :=
  r.update name (Logger.remember level (r.admits name level))

/-- Nothing is decided any more, for no logger. -/
def forget (r : Registry) : Registry where
  root := r.root.forget
  entries := r.entries.map fun (name, node) => (name, node.map Logger.forget)

/-- A logger gets a level. The loggers below may go by it, so all `forget` what has been decided. -/
def setLevel (name : Text) (level : Nat) (r : Registry) : Registry :=
  (r.update name fun logger => { logger with level }).forget

/-- The handlers of a logger and of those above it, along its `chain`. -/
def handlersOf (r : Registry) (name : Text) : List Handler :=
  (r.chain name).flatMap Logger.handlers

/-- Those of `handlersOf` that write a record of a level, once it is let through. -/
def handlersFor (r : Registry) (name : Text) (level : Nat) : List Handler :=
  (r.handlersOf name).filter (·.level ≤ level)

/-! ### The program's own loggers -/

/-- The logger above all those of the program. -/
def programName : Text := "ffmpeg_preset"

/-- The logger is `programName`, or below it. -/
def isProgramName (name : Text) : Bool :=
  name = programName || (programName ++ [Sign.char '.']).isPrefixOf name

/-- The names of the program's loggers by `isProgramName`, in the order of their entries. -/
def programNames (r : Registry) : List Text :=
  (r.loggers.map (·.1)).filter isProgramName

/-- The loggers of `programNames` and their handlers are set to a level. -/
def setProgramLevel (level : Nat) (r : Registry) : Registry :=
  (r.programNames.foldl (fun r name => r.update name (Logger.setLevel level)) r).forget

end Registry

end Transcode.Log
