/-!
# Lines and positions

Text files end their lines with a line feed, a carriage return, or both; a reader sees a line feed
for each. A place in a text is told as a line and a column, both counted from one, beside the
number of characters before it.
-/

namespace Transcode.Text

/-- Every line end becomes a line feed. -/
def unifyLineEnds : List Char → List Char
  | [] => []
  | '\r' :: '\n' :: rest => '\n' :: unifyLineEnds rest
  | '\r' :: rest => '\n' :: unifyLineEnds rest
  | c :: rest => c :: unifyLineEnds rest

/-- A place in a text. -/
structure Position where
  line : Nat
  column : Nat
  index : Nat
  deriving DecidableEq, Repr

/-- The line and column after the given characters, starting from those of a `Position`. -/
def advance (line column : Nat) : List Char → Nat × Nat
  | [] => (line, column)
  | c :: rest => if c = '\n' then advance (line + 1) 1 rest else advance line (column + 1) rest

/-- The `Position` before the character with the given index. -/
def positionAt (text : List Char) (index : Nat) : Position :=
  let (line, column) := advance 1 1 (text.take index)
  ⟨line, column, index⟩

/-- `unifyLineEnds` leaves a text without carriage returns as it is. -/
theorem unifyLineEnds_of_not_mem {text : List Char} (h : '\r' ∉ text) :
    unifyLineEnds text = text := by
  induction text with
  | nil => rfl
  | cons c rest ih =>
    rw [List.mem_cons, not_or] at h
    rw [unifyLineEnds, ih h.2]
    · exact fun _ hc _ => h.1 hc.symm
    · exact fun hc => h.1 hc.symm

end Transcode.Text
