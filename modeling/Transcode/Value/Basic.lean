import Transcode.Decimal.Binary64
import Transcode.Entries
import Transcode.Text.Basic

/-!
# Values

What a configuration file can hold: nothing, a truth value, a whole number, a number of double
precision, a text, a list, or an object of named values. A setting may hold any of them, whatever
is done with it later, so the kind of a value is asked for when it is used.

## Main definitions

* `Value` — the values;
* `Value.kind` — the kind of a value, whose name messages give;
* `Value.isEmpty` — the values that count as not given;
* `Value.same` — equality, which compares numbers by what they stand for.
-/

namespace Transcode

open Decimal (Binary64)

/-- A value of a configuration file. -/
inductive Value where
  | null
  | bool (b : Bool)
  | int (n : Int)
  | float (x : Binary64)
  | text (t : Text)
  | list (items : List Value)
  | object (entries : List (Text × Value))

namespace Value

instance : Inhabited Value := ⟨.null⟩

/-- The kinds of values. -/
inductive Kind where
  | null
  | bool
  | int
  | float
  | text
  | list
  | object
  deriving DecidableEq, Repr

/-- The name of a kind in messages. -/
def Kind.name : Kind → String
  | .null => "NoneType"
  | .bool => "bool"
  | .int => "int"
  | .float => "float"
  | .text => "str"
  | .list => "list"
  | .object => "dict"

/-- The `Kind` of a value. -/
def kind : Value → Kind
  | .null => .null
  | .bool _ => .bool
  | .int _ => .int
  | .float _ => .float
  | .text _ => .text
  | .list _ => .list
  | .object _ => .object

/-- A value that counts as not given: `Value.null`, false, a zero, or an empty text, list or object.
-/
def isEmpty : Value → Bool
  | .null => true
  | .bool b => !b
  | .int n => n == 0
  | .float (.finite _ mantissa _) => mantissa == 0
  | .float _ => false
  | .text t => t.isEmpty
  | .list items => items.isEmpty
  | .object entries => entries.isEmpty

/-- The first value, unless it `isEmpty`, which counts as not given. -/
def orElse (value other : Value) : Value :=
  if value.isEmpty then other else value

/-! ### Numbers -/

/-- The finite numbers as quotients; a truth value counts as one or zero. -/
def ratio? : Value → Option (Int × Nat)
  | .bool b => some (if b then 1 else 0, 1)
  | .int n => some (n, 1)
  | .float x => x.ratio?
  | _ => none

/-- The value is a `Value.bool`, a `Value.int` or a `Value.float`. -/
def isNumber : Value → Bool
  | .bool _ | .int _ | .float _ => true
  | _ => false

/-- Two numbers stand for the same quantity, which is their `ratio?` if they are finite. -/
def sameNumber (a b : Value) : Bool :=
  match a, b with
  | .float x, .float y => x.same y
  | a, b =>
    match a.ratio?, b.ratio? with
    | some (m, d), some (n, e) => m * e == n * d
    | _, _ => false

/-- A number is below another one; what is no number is below nothing. -/
def lessNumber (a b : Value) : Bool :=
  match a, b with
  | .float .nan, _ => false
  | _, .float .nan => false
  | .float (.infinite s), .float (.infinite t) => s && !t
  | .float (.infinite s), _ => s
  | _, .float (.infinite t) => !t
  | a, b =>
    match a.ratio?, b.ratio? with
    | some (m, d), some (n, e) => decide (m * e < n * d)
    | _, _ => false

/-! ### Equality -/

mutual

/-- Equality of values. Numbers are equal by `sameNumber`, or when both are none at all, lists when
their items are equal, and objects when they give equal values to the same names, in whatever order.
-/
def same : Value → Value → Bool
  | .null, .null => true
  | .float .nan, .float .nan => true
  | .text s, .text t => s == t
  | .list as, .list bs => sameItems as bs
  | .object as, .object bs => as.length == bs.length && sameEntries as bs
  | a, b => a.isNumber && b.isNumber && sameNumber a b

/-- Equal lists: the items are the `same` one by one. -/
def sameItems : List Value → List Value → Bool
  | [], [] => true
  | a :: as, b :: bs => same a b && sameItems as bs
  | _, _ => false

/-- Every entry has one of its name in the other object, with the `same` value. -/
def sameEntries : List (Text × Value) → List (Text × Value) → Bool
  | [], _ => true
  | (name, a) :: rest, bs =>
    (match Entries.get? name bs with
      | some b => same a b
      | none => false) && sameEntries rest bs

end

end Value

end Transcode
