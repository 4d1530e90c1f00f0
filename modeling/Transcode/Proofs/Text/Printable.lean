import Transcode.Text.Quoted

/-!
# Printable texts and lines

A quoted text is printable, whatever it quotes: the quotes and what escapes are made of are
printable, and a character that is not is escaped. Nothing that ends a line, by any convention, is
printable. So a printable text with a line feed behind it is one line, and as many such lines have
as many line ends.

## Main definitions

* `IsPrintable` — texts of printable characters;
* `lineEnds`, `countLineEnds` — the characters that end a line, and how many a text has;
* `IsLine` — a printable text and a line feed.

## Main results

* `isPrintable_quoted` — quoted texts, by the cases of their escapes;
* `countLineEnds_join` — lines one after another.
-/

namespace Transcode.Text

variable {s t line : String} {c quote : Char}

/-- `isPrintable` holds of all characters of a text. -/
def IsPrintable (text : String) : Prop :=
  text.toList.all isPrintable = true

instance (text : String) : Decidable (IsPrintable text) :=
  inferInstanceAs (Decidable (_ = true))

theorem isPrintable_iff : IsPrintable s ↔ ∀ c ∈ s.toList, isPrintable c = true :=
  List.all_eq_true

theorem IsPrintable.append (hs : IsPrintable s) (ht : IsPrintable t) : IsPrintable (s ++ t) := by
  rw [IsPrintable, String.toList_append, List.all_append, hs, ht]
  rfl

/-- `IsPrintable` holds of a text of characters that are printable. -/
theorem isPrintable_ofList {text : List Char} (h : ∀ c ∈ text, isPrintable c = true) :
    IsPrintable (String.ofList text) := by
  rwa [isPrintable_iff, String.toList_ofList]

/-- `IsPrintable` holds of numbers. -/
theorem isPrintable_toString (n : Nat) : IsPrintable (toString n) := by
  have hdigits : ∀ d : Fin 58, 48 ≤ d.val → inRanges d.val unprintableRanges = false := by decide
  refine isPrintable_ofList fun c hc => ?_
  obtain ⟨hlow, hhigh⟩ := Char.isDigit_iff_toNat.mp
    (Nat.isDigit_of_mem_toDigits (by decide) (by decide) hc)
  rw [isPrintable, hdigits ⟨c.toNat, Nat.lt_succ_of_le hhigh⟩ hlow]
  rfl

/-! ### Quoted texts -/

/-- `hexDigits` are printable. -/
theorem isPrintable_of_mem_hexDigits {width n : Nat} (h : c ∈ hexDigits width n) :
    isPrintable c = true := by
  have hdigit : ∀ d : Fin 16, isPrintable (Nat.digitChar d) = true := by decide
  induction width generalizing n with
  | zero => exact absurd h List.not_mem_nil
  | succ width ih =>
      rw [hexDigits, List.mem_append, List.mem_singleton] at h
      rcases h with h | rfl
      · exact ih h
      · exact hdigit ⟨n % 16, Nat.mod_lt n (by decide)⟩

/-- Behind a backslash, what is printable. -/
theorem isPrintable_of_mem_escape {letters : List Char} (h : c ∈ '\\' :: letters)
    (hletters : ∀ x ∈ letters, isPrintable x = true) : isPrintable c = true := by
  rcases List.mem_cons.mp h with rfl | h
  · decide
  · exact hletters c h

/-- Behind a backslash and a letter, digits. -/
theorem isPrintable_of_mem_numeric {letter : Char} {width n : Nat}
    (hletter : isPrintable letter = true) (h : c ∈ '\\' :: letter :: hexDigits width n) :
    isPrintable c = true :=
  isPrintable_of_mem_escape h fun _ hx =>
    (List.mem_cons.mp hx).elim (fun hx => hx ▸ hletter) isPrintable_of_mem_hexDigits

/-- `quoteChar` shows a character by printable ones, with a case for each kind of escape. -/
theorem isPrintable_of_mem_quoteChar {shown : Char} (hquote : isPrintable quote = true)
    (h : c ∈ quoteChar quote shown) : isPrintable c = true := by
  rw [quoteChar] at h
  split at h
  next hself =>
    refine isPrintable_of_mem_escape h fun x hx => ?_
    obtain rfl := List.mem_singleton.mp hx
    rcases hself with rfl | rfl
    · exact hquote
    · decide
  split at h
  next => exact isPrintable_of_mem_escape h (List.forall_mem_singleton.mpr (by decide))
  split at h
  next => exact isPrintable_of_mem_escape h (List.forall_mem_singleton.mpr (by decide))
  split at h
  next => exact isPrintable_of_mem_escape h (List.forall_mem_singleton.mpr (by decide))
  split at h
  next hprintable =>
    obtain rfl := List.mem_singleton.mp h
    exact hprintable
  split at h
  next => exact isPrintable_of_mem_numeric (by decide) h
  split at h
  next => exact isPrintable_of_mem_numeric (by decide) h
  next => exact isPrintable_of_mem_numeric (by decide) h

/-- So does `quoteSign`, also of a `Sign.half`. -/
theorem isPrintable_of_mem_quoteSign {sign : Sign} (hquote : isPrintable quote = true)
    (h : c ∈ quoteSign quote sign) : isPrintable c = true := by
  cases sign with
  | char shown => exact isPrintable_of_mem_quoteChar hquote h
  | half n => exact isPrintable_of_mem_numeric (by decide) h

/-- **`quoted` is printable**, whatever it quotes. -/
theorem isPrintable_quoted (text : Text) : IsPrintable (quoted text) := by
  have hquote : isPrintable (quoteFor text) = true := by
    rw [quoteFor]
    split <;> decide
  refine isPrintable_ofList fun c hc => ?_
  simp only [quotedChars, List.cons_append, List.mem_cons, List.mem_append, List.mem_flatMap,
    List.not_mem_nil, or_false] at hc
  rcases hc with rfl | ⟨sign, -, hc⟩ | rfl
  · exact hquote
  · exact isPrintable_of_mem_quoteSign hquote hc
  · exact hquote

/-! ### Lines -/

/-- The characters that end a line, by one convention or another: line feed, line tabulation, form
feed, carriage return, three of the separators of information, next line, and the separators of
lines and of paragraphs. -/
def lineEnds : List Char :=
  ['\n', '\x0b', '\x0c', '\r', '\x1c', '\x1d', '\x1e', '\u0085', '\u2028', '\u2029']

/-- How many of the `lineEnds` there are in a text. -/
def countLineEnds (text : String) : Nat :=
  text.toList.countP fun c => lineEnds.contains c

/-- A text is one line: printable characters, and a line feed at the end. -/
def IsLine (line : String) : Prop :=
  ∃ body, IsPrintable body ∧ line = body ++ "\n"

/-- `isPrintable` holds of nothing that ends a line. -/
theorem isPrintable_of_mem_lineEnds (h : c ∈ lineEnds) : isPrintable c = false := by
  have hall : lineEnds.all (fun c => !isPrintable c) = true := by decide +kernel
  simpa using List.all_eq_true.mp hall c h

theorem countLineEnds_append (s t : String) :
    countLineEnds (s ++ t) = countLineEnds s + countLineEnds t := by
  rw [countLineEnds, String.toList_append, List.countP_append, countLineEnds, countLineEnds]

/-- `IsPrintable` holds of a text only if it ends no line. -/
theorem IsPrintable.countLineEnds (h : IsPrintable s) : countLineEnds s = 0 := by
  rw [Text.countLineEnds, List.countP_eq_zero]
  intro c hc hend
  have hnot := isPrintable_of_mem_lineEnds (List.contains_iff_mem.mp hend)
  rw [isPrintable_iff.mp h c hc] at hnot
  cases hnot

/-- `IsLine` holds of a text only if it ends one line. -/
theorem IsLine.countLineEnds (h : IsLine line) : countLineEnds line = 1 := by
  obtain ⟨body, hbody, rfl⟩ := h
  rw [countLineEnds_append, hbody.countLineEnds]
  rfl

/-- Lines one after another have as many line ends as there are lines. -/
theorem countLineEnds_join {lines : List String} (h : ∀ line ∈ lines, IsLine line) :
    countLineEnds (String.join lines) = lines.length := by
  induction lines with
  | nil => rfl
  | cons line rest ih =>
      rw [String.join_cons, countLineEnds_append, (h line List.mem_cons_self).countLineEnds,
        ih fun other hother => h other (List.mem_cons_of_mem _ hother), List.length_cons,
        Nat.add_comm]

end Transcode.Text
