import Transcode.Proofs.Value.Numbers
import Transcode.Proofs.Value.RoundTrip
import Transcode.Proofs.Value.Texts

/-!
# The grammar of values

What a text can spell is told here without a reader. A spelling relates the characters of a text to
what stands at their front and to the rest that stands behind it. The parts of a list or an object
are spelled one after another, with commas between them and blanks around every sign. Lists and
objects are nested to a depth, and the grammar goes down by it.

## Main definitions

* `Spelling` — a relation between characters, what they spell, and the rest;
* `SpellsParts`, `SpellsMember` — what stands behind an opening sign, for any kind of part;
* `SpellsScalar`, `SpellsNested`, `Spells` — the spellings of values;
* `SpellsObject` — a whole text that is an object, with its members one after another.

## Main results

* `beginsInside_spells` — no value begins with a blank or with a closing sign;
* `isShorter_spells` — every value takes some of the text.
-/

namespace Transcode.Value

/-- What stands at the front of some characters, and the rest behind it. -/
abbrev Spelling (α : Type) := List Char → α → List Char → Prop

/-- The text is the rest with nothing but `blanks` before it. -/
def BlanksTo (cs rest : List Char) : Prop :=
  ∃ spaces : List Char, (∀ c ∈ spaces, c ∈ blanks) ∧ cs = spaces ++ rest

/-- Parts with commas between them, up to a closing sign. -/
inductive SpellsSome {α : Type} (part : Spelling α) (close : Char) : Spelling (List α) where
  | last {cs next rest : List Char} {a : α} (hpart : part cs a next)
      (hclose : BlanksTo next (close :: rest)) : SpellsSome part close cs [a] rest
  | comma {cs next behind start rest : List Char} {a : α} {parts : List α}
      (hpart : part cs a next) (hcomma : BlanksTo next (',' :: behind))
      (hblanks : BlanksTo behind start) (hmore : SpellsSome part close start parts rest) :
      SpellsSome part close cs (a :: parts) rest

/-- The parts behind an opening sign: none, or `SpellsSome`. -/
inductive SpellsParts {α : Type} (part : Spelling α) (close : Char) : Spelling (List α) where
  | none {cs rest : List Char} (hclose : BlanksTo cs (close :: rest)) :
      SpellsParts part close cs [] rest
  | some {cs start rest : List Char} {parts : List α} (hblanks : BlanksTo cs start)
      (hsome : SpellsSome part close start parts rest) : SpellsParts part close cs parts rest

/-- A member of an object: its name, which `SpellsSigns` spells, a colon, and its value. Halves in
the name are joined by `joinHalves`. -/
inductive SpellsMember (value : Spelling Value) : Spelling (Text × Value) where
  | member {cs next behind start rest : List Char} {signs : Text} {v : Value}
      (hname : SpellsSigns cs signs next) (hcolon : BlanksTo next (':' :: behind))
      (hblanks : BlanksTo behind start) (hvalue : value start v rest) :
      SpellsMember value ('"' :: cs) (joinHalves signs, v) rest

/-- A value that is neither a list nor an object. -/
inductive SpellsScalar : Spelling Value where
  | null {rest : List Char} : SpellsScalar ('n' :: 'u' :: 'l' :: 'l' :: rest) .null rest
  | yes {rest : List Char} : SpellsScalar ('t' :: 'r' :: 'u' :: 'e' :: rest) (.bool true) rest
  | no {rest : List Char} :
      SpellsScalar ('f' :: 'a' :: 'l' :: 's' :: 'e' :: rest) (.bool false) rest
  | nan {rest : List Char} : SpellsScalar ('N' :: 'a' :: 'N' :: rest) (.float .nan) rest
  | infinite {rest : List Char} :
      SpellsScalar ('I' :: 'n' :: 'f' :: 'i' :: 'n' :: 'i' :: 't' :: 'y' :: rest)
        (.float (.infinite false)) rest
  | minusInfinite {rest : List Char} :
      SpellsScalar ('-' :: 'I' :: 'n' :: 'f' :: 'i' :: 'n' :: 'i' :: 't' :: 'y' :: rest)
        (.float (.infinite true)) rest
  | number (n : Numeral) (hn : n.IsReadable) {rest : List Char} :
      SpellsScalar (n.chars ++ rest) n.value rest
  | text {cs rest : List Char} {signs : Text} (hsigns : SpellsSigns cs signs rest) :
      SpellsScalar ('"' :: cs) (.text (joinHalves signs)) rest

/-- A value whose parts, if it has any, are spelled by `inner`. -/
inductive SpellsNested (inner : Spelling Value) : Spelling Value where
  | scalar {cs rest : List Char} {v : Value} (h : SpellsScalar cs v rest) :
      SpellsNested inner cs v rest
  | list {cs rest : List Char} {items : List Value} (h : SpellsParts inner ']' cs items rest) :
      SpellsNested inner ('[' :: cs) (.list items) rest
  | object {cs rest : List Char} {members : List (Text × Value)}
      (h : SpellsParts (SpellsMember inner) '\x7d' cs members rest) :
      SpellsNested inner ('\x7b' :: cs) (.object (Entries.ofList members)) rest

/-- A value in which lists and objects are nested no deeper than `depth`. -/
def Spells : (depth : Nat) → Spelling Value
  | 0 => SpellsScalar
  | depth + 1 => SpellsNested (Spells depth)

/-- The whole text is that of an object with the given members, one after another, perhaps several
with one name. Lists and objects are nested no deeper than `maxDepth`. -/
def SpellsObject (text : List Char) (members : List (Text × Value)) : Prop :=
  ∃ cs rest, BlanksTo text ('\x7b' :: cs) ∧
    SpellsParts (SpellsMember (Spells (maxDepth - 1))) '\x7d' cs members rest ∧ BlanksTo rest []

variable {cs rest next : List Char} {v : Value}

theorem Spells.of_scalar (h : SpellsScalar cs v rest) : ∀ depth, Spells depth cs v rest
  | 0 => h
  | _ + 1 => .scalar h

/-! ### Blanks -/

theorem BlanksTo.length_le (h : BlanksTo cs rest) : rest.length ≤ cs.length := by
  obtain ⟨spaces, -, rfl⟩ := h
  simp

/-- `skipBlanks` leaves what stands behind blanks, if that begins with none. -/
theorem BlanksTo.skipsTo (h : BlanksTo cs rest) (hrest : SkipsTo rest rest) : SkipsTo cs rest := by
  obtain ⟨spaces, hspaces, rfl⟩ := h
  induction spaces with
  | nil => exact hrest
  | cons c spaces ih =>
      intro i
      obtain ⟨j, hj⟩ := ih (fun x hx => hspaces x (List.mem_cons_of_mem _ hx)) (i + 1)
      refine ⟨j, ?_⟩
      have hc := hspaces c List.mem_cons_self
      simp only [blanks, List.mem_cons, List.not_mem_nil, or_false] at hc
      obtain rfl | rfl | rfl | rfl := hc <;> rw [List.cons_append, skipBlanks, hj]

theorem BlanksTo.skipsTo_cons {c : Char} (h : BlanksTo cs (c :: rest)) (hc : c ∉ blanks) :
    SkipsTo cs (c :: rest) :=
  h.skipsTo (skipsTo_self hc rest)

/-- What `skipBlanks` has skipped are blanks. -/
theorem blanksTo_of_skipBlanks {i j : Nat} (h : skipBlanks i cs = (j, rest)) :
    BlanksTo cs rest := by
  induction cs generalizing i with
  | nil =>
      cases h
      exact ⟨[], by simp, rfl⟩
  | cons c cs ih =>
      by_cases hc : c ∈ blanks
      · have hskip : skipBlanks (i + 1) cs = (j, rest) := by
          simp only [blanks, List.mem_cons, List.not_mem_nil, or_false] at hc
          obtain rfl | rfl | rfl | rfl := hc <;> exact h
        obtain ⟨spaces, hspaces, rfl⟩ := ih hskip
        exact ⟨c :: spaces, List.forall_mem_cons.mpr ⟨hc, hspaces⟩, rfl⟩
      · rw [skipBlanks_of_not_mem hc] at h
        cases h
        exact ⟨[], by simp, rfl⟩

/-- A text begins with a blank or with what stands behind its blanks. -/
theorem BlanksTo.ne_cons {c d : Char} (h : BlanksTo cs (c :: rest)) (hd : d ∉ c :: blanks)
    (more : List Char) : cs ≠ d :: more := by
  obtain ⟨spaces, hspaces, rfl⟩ := h
  rintro heq
  cases spaces with
  | nil => exact hd ((List.cons.inj heq).1 ▸ List.mem_cons_self)
  | cons s spaces =>
      have hs := hspaces s List.mem_cons_self
      exact hd (List.mem_cons_of_mem _ ((List.cons.inj heq).1 ▸ hs))

/-- Blanks in front of a text with `EndsNumber` do not go on with a number. -/
theorem BlanksTo.endsNumber (h : BlanksTo cs rest) (hrest : EndsNumber rest) : EndsNumber cs := by
  obtain ⟨spaces, hspaces, rfl⟩ := h
  have hall : ∀ c ∈ blanks, c ∈ followers := by simp [blanks, followers]
  cases spaces with
  | nil => exact hrest
  | cons c spaces => exact endsNumber_cons (hall c (hspaces c List.mem_cons_self)) _

/-- Neither do blanks in front of one of the `followers`. -/
theorem BlanksTo.endsNumber_cons {c : Char} (h : BlanksTo cs (c :: rest)) (hc : c ∈ followers) :
    EndsNumber cs :=
  h.endsNumber (Value.endsNumber_cons hc rest)

/-! ### Where a spelling begins and ends -/

section Ends

variable {α : Type} {part : Spelling α} {close : Char} {parts : List α}

/-- Behind what is spelled the text is shorter. -/
def IsShorter (part : Spelling α) : Prop :=
  ∀ cs a rest, part cs a rest → rest.length < cs.length

/-- What is spelled does not begin with a character of `outside`. -/
def BeginsInside (part : Spelling α) : Prop :=
  ∀ cs a rest, part cs a rest → ∃ c more, cs = c :: more ∧ c ∉ outside

theorem SpellsSome.length_lt (hpart : IsShorter part) (h : SpellsSome part close cs parts rest) :
    rest.length < cs.length := by
  induction h with
  | last h hclose =>
      have := hpart _ _ _ h
      have := hclose.length_le
      rw [List.length_cons] at this
      omega
  | comma h hcomma hblanks _ ih =>
      have := hpart _ _ _ h
      have := hcomma.length_le
      have := hblanks.length_le
      rw [List.length_cons] at *
      omega

theorem SpellsParts.length_lt (hpart : IsShorter part) (h : SpellsParts part close cs parts rest) :
    rest.length < cs.length := by
  cases h with
  | none hclose => exact hclose.length_le
  | some hblanks hsome => exact Nat.lt_of_lt_of_le (hsome.length_lt hpart) hblanks.length_le

theorem SpellsSigns.length_lt {signs : Text} (h : SpellsSigns cs signs rest) :
    rest.length < cs.length := by
  induction h <;> simp only [List.length_cons] <;> omega

theorem isShorter_member {value : Spelling Value} (h : IsShorter value) :
    IsShorter (SpellsMember value) := by
  rintro _ _ rest ⟨hname, hcolon, hblanks, hvalue⟩
  have := hname.length_lt
  have := hcolon.length_le
  have := hblanks.length_le
  have := h _ _ _ hvalue
  rw [List.length_cons] at *
  omega

theorem beginsInside_member {value : Spelling Value} : BeginsInside (SpellsMember value) := by
  rintro _ _ rest ⟨-⟩
  exact ⟨_, _, rfl, by decide⟩

/-- `SpellsSome` begins with the first of its parts. -/
theorem SpellsSome.exists_cons (hpart : BeginsInside part)
    (h : SpellsSome part close cs parts rest) : ∃ c more, cs = c :: more ∧ c ∉ outside := by
  cases h with
  | last h => exact hpart _ _ _ h
  | comma h => exact hpart _ _ _ h

end Ends

/-- The characters of a `Numeral` begin with a digit, or with a minus and a digit. -/
theorem Numeral.exists_chars (n : Numeral) :
    ∃ d more, isDigit d = true ∧ n.chars = (if n.negative then ['-'] else []) ++ d :: more := by
  obtain ⟨d, more, hd⟩ : ∃ d more, n.whole = d :: more :=
    n.whole_eq.elim (fun h => ⟨_, _, h⟩) fun ⟨c, more, h, _⟩ => ⟨c, more, h⟩
  exact ⟨d, _, n.isDigit_whole d (hd ▸ List.mem_cons_self), by rw [chars, hd, List.cons_append]⟩

theorem beginsInside_scalar : BeginsInside SpellsScalar := by
  intro cs v rest h
  cases h with
  | number n =>
      obtain ⟨d, more, hd, hchars⟩ := n.exists_chars
      rw [hchars]
      cases n.negative with
      | true => exact ⟨'-', _, rfl, by decide⟩
      | false => exact ⟨d, _, rfl, not_mem_outside_of_isDigit hd⟩
  | _ => exact ⟨_, _, rfl, by decide⟩

theorem isShorter_scalar : IsShorter SpellsScalar := by
  intro cs v rest h
  cases h with
  | number n =>
      obtain ⟨d, more, -, hchars⟩ := n.exists_chars
      simp only [hchars, List.length_append, List.length_cons]
      omega
  | text hsigns => exact Nat.lt_succ_of_lt hsigns.length_lt
  | _ => simp only [List.length_cons]; omega

theorem beginsInside_spells : ∀ depth, BeginsInside (Spells depth)
  | 0 => beginsInside_scalar
  | depth + 1 => by
      intro cs v rest h
      cases h with
      | scalar h => exact beginsInside_scalar _ _ _ h
      | list => exact ⟨_, _, rfl, by decide⟩
      | object => exact ⟨_, _, rfl, by decide⟩

/-- Fuel of twice the length of a value that `Spells` is not zero. -/
theorem exists_fuel {depth fuel : Nat} (h : Spells depth cs v rest) (hfuel : 2 * cs.length ≤ fuel) :
    ∃ n, fuel = n + 1 := by
  obtain ⟨c, more, rfl, -⟩ := beginsInside_spells depth _ _ _ h
  rw [List.length_cons] at hfuel
  exact ⟨fuel - 1, by omega⟩

theorem isShorter_spells (depth : Nat) : IsShorter (Spells depth) := by
  induction depth with
  | zero => exact isShorter_scalar
  | succ depth ih =>
      intro cs v rest h
      cases h with
      | scalar h => exact isShorter_scalar _ _ _ h
      | list h => exact Nat.lt_succ_of_lt (h.length_lt ih)
      | object h => exact Nat.lt_succ_of_lt (h.length_lt (isShorter_member ih))

end Transcode.Value
