import Transcode.Fault

/-!
# The order of members

The members of one axis are ordered by rank. Members of different axes can be told apart but not
ordered, and neither can a member and nothing.

## Main definitions

* `Comparison.compare` — one of the six comparisons.
-/

namespace Transcode

/-- The comparisons. -/
inductive Comparison where
  | less
  | atMost
  | greater
  | atLeast
  | equal
  | unequal
  deriving DecidableEq, Repr

/-- The name of the type of a member, or of nothing, in messages. -/
def typeNameOf : Option Member → String
  | some member => member.axis.typeName
  | none => Value.Kind.null.name

namespace Comparison

/-- The sign of a comparison. -/
def sign : Comparison → String
  | .less => "<"
  | .atMost => "<="
  | .greater => ">"
  | .atLeast => ">="
  | .equal => "=="
  | .unequal => "!="

/-- The comparison of two ranks. -/
def ofRanks : Comparison → Nat → Nat → Bool
  | .less, m, n => decide (m < n)
  | .atMost, m, n => decide (m ≤ n)
  | .greater, m, n => decide (n < m)
  | .atLeast, m, n => decide (n ≤ m)
  | .equal, m, n => m == n
  | .unequal, m, n => m != n

/-- The comparison of two members by `Member.rank`, or of a member and nothing. Only equality has an
answer for members of different axes, and for nothing. -/
def compare (c : Comparison) (a b : Option Member) : Except Fault Bool :=
  match c with
  | .equal => .ok (a == b)
  | .unequal => .ok (a != b)
  | c =>
    match a, b with
    | some m, some n =>
      if m.axis = n.axis then .ok (c.ofRanks m.rank n.rank)
      else .error (.unordered c.sign (typeNameOf a) (typeNameOf b))
    | _, _ => .error (.unordered c.sign (typeNameOf a) (typeNameOf b))

end Comparison

end Transcode
