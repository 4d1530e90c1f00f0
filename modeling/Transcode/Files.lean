import Transcode.Text.Quoted
import Transcode.Text.Split
import Transcode.Text.SystemName

/-!
# Files

The files and directories that a program reads and writes, and its working directory. A path is
followed component by component, from the root or from the working directory; a single dot stays in
the directory that has been reached, and two dots go back up. A path has to be a name for the
system, and names and paths have a greatest length in bytes. A file that is open also has a
descriptor, which is a number; nothing stays open here, so no number leads to a file.

A path with a slash at its end can only be that of a directory. A file is never made there, so the
last name is not even looked up then.

## Main definitions

* `Files` — the directories, and the contents of the files;
* `Files.read`, `Files.write` — access to a file by path;
* `Files.extend` — more content at the end of a file;
* `Files.absolute`, `Files.relative` — the name of a file from the root, and from the working
  directory.
-/

namespace Transcode

open Text.SystemName (byteCount fault?)

/-- Why a file cannot be used. -/
inductive FileFault where
  | missing (path : Text)
  | notDirectory (path : Text)
  | isDirectory (path : Text)
  /-- The path, or a name in it, has too many bytes. -/
  | tooLong (path : Text)
  /-- The path is no name for the system. -/
  | unencodable (fault : Text.SystemName.Fault)
  /-- The path holds a null character. -/
  | nullInPath
  /-- A descriptor of no open file. -/
  | notOpen
  | negativeDescriptor
  | descriptorTooGreat
  | descriptorTooSmall
  deriving DecidableEq, Repr

/-- A fault in words. The number is that of the system's error. -/
def FileFault.message : FileFault → String
  | .missing path => "[Errno 2] No such file or directory: " ++ Text.quoted path
  | .notDirectory path => "[Errno 20] Not a directory: " ++ Text.quoted path
  | .isDirectory path => "[Errno 21] Is a directory: " ++ Text.quoted path
  | .tooLong path => "[Errno 36] File name too long: " ++ Text.quoted path
  | .unencodable fault => fault.message
  | .nullInPath => "embedded null byte"
  | .notOpen => "[Errno 9] Bad file descriptor"
  | .negativeDescriptor => "negative file descriptor"
  | .descriptorTooGreat => "fd is greater than maximum"
  | .descriptorTooSmall => "fd is less than minimum"

/-- A file or directory, by the components of its path from the root. -/
abbrev Location := List Text

/-- The directories and files that there are. The working directory `home` and those above it need
not be listed. -/
structure Files where
  home : Location
  directories : List Location := []
  contents : List (Location × List UInt8) := []
  deriving DecidableEq, Repr

namespace Files

/-! ### Paths -/

/-- The sign between components. -/
def slash : Sign := '/'

/-- The component that stays where it is. -/
def oneDot : Text := "."

/-- The component that goes back up. -/
def twoDots : Text := ".."

/-- The components of a path: what `Text.splitAt` finds between slashes, without what is empty. -/
def components (path : Text) : List Text :=
  (Text.splitAt slash path).filter fun part => !part.isEmpty

/-- The path is given from the root. -/
def isAbsolute (path : Text) : Bool :=
  path.head? == some slash

/-- The path ends in a slash. -/
def endsInSlash (path : Text) : Bool :=
  path.getLast? == some slash

/-- A component that is no name: `oneDot` stays where it is, and `twoDots` goes back up. -/
def isDots (part : Text) : Bool :=
  part == oneDot || part == twoDots

/-- Components without dots: `twoDots` take away the component before them. -/
def collapse (parts : List Text) : List Text :=
  parts.foldl
    (fun done part =>
      if part = oneDot then done else if part = twoDots then done.dropLast else done ++ [part]) []

/-- What stands before the first component of a path that `isAbsolute`: one slash, or the two that
the path begins with if it begins with just two. -/
def rootOf (path : Text) : Text :=
  match (path.takeWhile (· == slash)).length with
  | 2 => [slash, slash]
  | _ => [slash]

/-- The `Location` that a path names, after `collapse`: two dots undo the component before them
whatever it is. -/
def locate (f : Files) (path : Text) : Location :=
  collapse ((if isAbsolute path then [] else f.home) ++ components path)

/-- The name from the root of the file at a path, with the components of `locate`. -/
def absolute (f : Files) (path : Text) : Text :=
  rootOf path ++ Text.joinWith [slash] (f.locate path)

/-- The components that lead from one location to another: up to where their ways part, and down
again. -/
def between : Location → Location → List Text
  | a :: here, b :: there =>
    if a = b then between here there else (a :: here).map (fun _ => twoDots) ++ b :: there
  | here, there => here.map (fun _ => twoDots) ++ there

/-- The path from the working directory to a location. -/
def relative (f : Files) (location : Location) : Text :=
  match between f.home location with
  | [] => oneDot
  | parts => Text.joinWith [slash] parts

/-! ### Descriptors -/

/-- The greatest number that can be the descriptor of a file. -/
def maxDescriptor : Int := 2147483647

/-- The least number that is taken for a descriptor, though a negative one is none. -/
def minDescriptor : Int := -2147483648

/-! ### Following a path -/

/-- What a path leads to, as far as `walk` and `reach` can follow it. -/
inductive Target where
  | directory
  | file (location : Location)
  /-- Nothing yet, in a directory that is there. -/
  | vacant (location : Location)
  /-- Nothing, in no directory. -/
  | nowhere
  /-- A component that is not the last one is a file. -/
  | throughFile
  /-- The path is too long, or a name that has to be looked up is. -/
  | tooLong
  deriving DecidableEq, Repr

/-- The content of the file at a location. -/
def content? (f : Files) (location : Location) : Option (List UInt8) :=
  f.contents.lookup location

/-- There is a directory at a location. -/
def isDirectory (f : Files) (location : Location) : Bool :=
  location.isPrefixOf f.home || f.directories.contains location

/-- The most bytes of a name. -/
def maxNameBytes : Nat := 255

/-- The most bytes of a path. -/
def maxPathBytes : Nat := 4095

/-- What is reached from a directory along the given components: a `Target`. Above the root is the
root. -/
def walk (f : Files) (here : Location) : List Text → Target
  | [] => .directory
  | part :: rest =>
    if part = oneDot then walk f here rest
    else if part = twoDots then walk f here.dropLast rest
    else if maxNameBytes < byteCount part then .tooLong
    else
      let next := here ++ [part]
      if f.isDirectory next then walk f next rest
      else
        match rest, f.content? next with
        | [], some _ => .file next
        | [], none => .vacant next
        | _ :: _, some _ => .throughFile
        | _ :: _, none => .nowhere

/-- What is reached along the given `components` of a path. The empty path leads nowhere. -/
def reach (f : Files) (path : Text) (parts : List Text) : Target :=
  if maxPathBytes < byteCount path then .tooLong
  else if path.isEmpty then .nowhere
  else walk f (if isAbsolute path then [] else f.home) parts

/-- What a path leads to, from the root if it `isAbsolute` and from `home` otherwise. -/
def target (f : Files) (path : Text) : Target :=
  f.reach path (components path)

/-- The `Target` of a path in whose place a file is to be made. A name with a slash behind it stands
for a directory if it is in one. -/
def targetForWriting (f : Files) (path : Text) : Target :=
  let parts := components path
  if endsInSlash path && parts.getLast?.any (!isDots ·) then
    match f.reach path parts.dropLast with
    | .file _ => .throughFile
    | .vacant _ => .nowhere
    | above => above
  else f.target path

/-- Why a text cannot be a path at all: `fault?` finds halves without bytes in it, or it holds a
null character. -/
def refusal? (path : Text) : Option FileFault :=
  match fault? path with
  | some fault => some (.unencodable fault)
  | none => if path.contains (.char '\x00') then some .nullInPath else none

/-- There is a file or a directory at the path, by its `target`. -/
def has (f : Files) (path : Text) : Bool :=
  (refusal? path).isNone &&
    match f.target path with
    | .directory => true
    | .file _ => !endsInSlash path
    | _ => false

/-! ### Reading and writing -/

/-- The content of the file at a path, or the `FileFault` of its `target`. -/
def read (f : Files) (path : Text) : Except FileFault (List UInt8) :=
  match refusal? path with
  | some fault => .error fault
  | none =>
    match f.target path with
    | .directory => .error (.isDirectory path)
    | .file location =>
      if endsInSlash path then .error (.notDirectory path)
      else .ok ((f.content? location).getD [])
    | .throughFile => .error (.notDirectory path)
    | .vacant _ | .nowhere => .error (.missing path)
    | .tooLong => .error (.tooLong path)

/-- A location with a new content. -/
def store (f : Files) (location : Location) (bytes : List UInt8) : Files :=
  { f with contents := (location, bytes) :: f.contents.filter (fun entry => entry.1 != location) }

theorem content?_store_self (f : Files) (location : Location) (bytes : List UInt8) :
    (f.store location bytes).content? location = some bytes := by
  simp [store, content?]

theorem content?_store_of_ne {location other : Location} (h : other ≠ location) (f : Files)
    (bytes : List UInt8) : (f.store location bytes).content? other = f.content? other := by
  simp only [store, content?, List.lookup_cons, beq_eq_false_iff_ne.2 h]
  induction f.contents with
  | nil => rfl
  | cons entry rest ih =>
    obtain ⟨key, value⟩ := entry
    by_cases hk : key = location
    · subst hk
      simp [List.lookup_cons, beq_eq_false_iff_ne.2 h, ih]
    · simp [List.lookup_cons, hk, ih]

/-- The `Location` that a path leads to for writing, where a file is or can be, by
`targetForWriting`. -/
def writable (f : Files) (path : Text) : Except FileFault Location :=
  match refusal? path with
  | some fault => .error fault
  | none =>
    match f.targetForWriting path with
    | .directory => .error (.isDirectory path)
    | .file location | .vacant location => .ok location
    | .throughFile => .error (.notDirectory path)
    | .nowhere => .error (.missing path)
    | .tooLong => .error (.tooLong path)

/-- The file at a path gets a new content, if the path is `writable`. -/
def write (f : Files) (path : Text) (bytes : List UInt8) : Except FileFault Files :=
  (f.writable path).map fun location => f.store location bytes

/-- The file at a location, made if it is not there, gets more content at its end, with `store`. -/
def extend (f : Files) (location : Location) (bytes : List UInt8) : Files :=
  f.store location ((f.content? location).getD [] ++ bytes)

/-- The directory at a location, with those above it. -/
def addDirectory (f : Files) (location : Location) : Files :=
  let way := (List.range location.length).map fun n => location.take (n + 1)
  { f with directories := f.directories ++ way.filter (fun above => !f.directories.contains above) }

/-- A file at a path, as `locate` finds it, with the directories above it. -/
def place (f : Files) (path : Text) (bytes : List UInt8) : Files :=
  let location := f.locate path
  (f.addDirectory location.dropLast).store location bytes

/-- The files below the working directory by their `relative` paths, with their contents, in the
order of the paths. -/
def list (f : Files) : List (Text × List UInt8) :=
  ((f.contents.filter fun entry => f.home.isPrefixOf entry.1).map fun (location, bytes) =>
    (f.relative location, bytes)).mergeSort fun a b => a.1.notAfter b.1

end Files

end Transcode
