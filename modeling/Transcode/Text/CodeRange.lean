/-!
# Sets of code points as ranges

Unicode defines its character classes by code point, and a class is written here as a list of
closed ranges in increasing order. A range that starts above the code point ends the search: no
later range can hold it.
-/

namespace Transcode.Text

/-- A closed range of code points, both ends included. -/
structure CodeRange where
  first : Nat
  last : Nat
  deriving DecidableEq, Repr

/-- Membership of the code point `n` in a list of ranges in increasing order. -/
def inRanges (n : Nat) : List CodeRange → Bool
  | [] => false
  | r :: rest => decide (r.first ≤ n) && (decide (n ≤ r.last) || inRanges n rest)

/-- A code point that `inRanges` finds lies in one of the ranges. -/
theorem exists_of_inRanges {n : Nat} {rs : List CodeRange} (h : inRanges n rs = true) :
    ∃ r ∈ rs, r.first ≤ n ∧ n ≤ r.last := by
  induction rs with
  | nil => simp [inRanges] at h
  | cons r rest ih =>
    simp only [inRanges, Bool.and_eq_true, decide_eq_true_eq, Bool.or_eq_true] at h
    rcases h with ⟨hlow, hhigh | hrest⟩
    · exact ⟨r, List.mem_cons_self, hlow, hhigh⟩
    · obtain ⟨s, hs, hb⟩ := ih hrest
      exact ⟨s, List.mem_cons_of_mem _ hs, hb⟩

end Transcode.Text
