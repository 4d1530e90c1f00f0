import Transcode.Text.Basic
import Transcode.Text.Split

/-!
# The pieces of a text

What `splitAt` does to a text is used in two ways: the pieces of a joined text are looked up, and
the pieces of a text in signs are compared with those of its characters. This module has the facts
for both, and the one on cutting a text at its first separator.

## Main results

* `splitAt_append_separator` — the pieces before a separator and after it;
* `splitAt_joinWith` — splitting undoes joining, as long as no piece holds the separator;
* `splitAt_map` — an injective renaming of the signs renames the pieces;
* `mem_iff_exists_mem_splitAt` — all signs but the separators are kept, each in some piece.
-/

namespace Transcode.Text

variable {α β : Type} [DecidableEq α] [DecidableEq β]

/-! ### One sign more -/

/-- `splitAt` of a text with a separator in front begins with an empty piece. -/
theorem splitAt_cons_self (separator : α) (rest : List α) :
    splitAt separator (separator :: rest) = [] :: splitAt separator rest := by
  rw [splitAt, if_pos rfl]

/-- `splitAt` puts any other sign in front in the first piece. -/
theorem splitAt_cons_of_ne {separator c : α} (hc : c ≠ separator) {rest piece : List α}
    {pieces : List (List α)} (h : splitAt separator rest = piece :: pieces) :
    splitAt separator (c :: rest) = (c :: piece) :: pieces := by
  rw [splitAt, if_neg hc, h]

/-- There is a first piece. -/
theorem exists_splitAt_eq_cons (separator : α) (text : List α) :
    ∃ piece pieces, splitAt separator text = piece :: pieces :=
  List.exists_cons_of_ne_nil (splitAt_ne_nil separator text)

/-- `splitAt` of a text with a separator has the pieces before it and those after it. -/
theorem splitAt_append_separator (separator : α) (front behind : List α) :
    splitAt separator (front ++ separator :: behind) =
      splitAt separator front ++ splitAt separator behind := by
  induction front with
  | nil => rw [List.nil_append, splitAt_cons_self, splitAt, List.singleton_append]
  | cons c front ih =>
      by_cases hc : c = separator
      · rw [List.cons_append, hc, splitAt_cons_self, splitAt_cons_self, ih, List.cons_append]
      · obtain ⟨piece, pieces, hs⟩ := exists_splitAt_eq_cons separator front
        rw [hs, List.cons_append] at ih
        rw [List.cons_append, splitAt_cons_of_ne hc ih, splitAt_cons_of_ne hc hs, List.cons_append]

/-! ### Splitting what was joined -/

omit [DecidableEq α] in
/-- `joinWith` puts the separator between the first two pieces. -/
theorem joinWith_cons_cons (separator piece next : List α) (others : List (List α)) :
    joinWith separator (piece :: next :: others) =
      piece ++ separator ++ joinWith separator (next :: others) := by
  simp only [joinWith]

/-- `splitAt` undoes `joinWith`, as long as no piece holds the separator. -/
theorem splitAt_joinWith {separator : α} {pieces : List (List α)} (hne : pieces ≠ [])
    (h : ∀ piece ∈ pieces, separator ∉ piece) :
    splitAt separator (joinWith [separator] pieces) = pieces := by
  induction pieces with
  | nil => exact absurd rfl hne
  | cons piece pieces ih =>
      have hpiece : separator ∉ piece := h piece List.mem_cons_self
      cases pieces with
      | nil => exact splitAt_of_not_mem hpiece
      | cons next others =>
          have hothers := ih (List.cons_ne_nil _ _) fun p hp => h p (List.mem_cons_of_mem _ hp)
          rw [joinWith_cons_cons, List.append_assoc, List.singleton_append,
            splitAt_append hpiece, hothers]

/-! ### Other signs -/

omit [DecidableEq α] [DecidableEq β] in
/-- `joinWith` of renamed pieces is the renamed text. -/
theorem map_joinWith (f : α → β) (separator : List α) (pieces : List (List α)) :
    (joinWith separator pieces).map f =
      joinWith (separator.map f) (pieces.map (List.map f)) := by
  induction pieces with
  | nil => rfl
  | cons piece pieces ih =>
      cases pieces with
      | nil => rfl
      | cons next others =>
          rw [joinWith_cons_cons, List.map_append, List.map_append, ih]
          simp only [List.map_cons, joinWith_cons_cons]

/-- `splitAt` of a text that is renamed by an injective function gives the renamed pieces. -/
theorem splitAt_map {f : α → β} (hf : ∀ a b, f a = f b → a = b) (separator : α)
    (text : List α) :
    splitAt (f separator) (text.map f) = (splitAt separator text).map (List.map f) := by
  induction text with
  | nil => rfl
  | cons c rest ih =>
      by_cases hc : c = separator
      · subst hc
        rw [List.map_cons, splitAt_cons_self, splitAt_cons_self, ih, List.map_cons, List.map_nil]
      · obtain ⟨piece, pieces, hs⟩ := exists_splitAt_eq_cons separator rest
        rw [hs, List.map_cons] at ih
        rw [List.map_cons, splitAt_cons_of_ne (fun h => hc (hf _ _ h)) ih,
          splitAt_cons_of_ne hc hs, List.map_cons, List.map_cons]

/-! ### What the pieces hold -/

/-- `splitAt` keeps all signs but the separators, each in some piece. -/
theorem mem_iff_exists_mem_splitAt {separator x : α} (hx : x ≠ separator) {text : List α} :
    x ∈ text ↔ ∃ piece ∈ splitAt separator text, x ∈ piece := by
  induction text with
  | nil => simp [splitAt]
  | cons c rest ih =>
      rw [List.mem_cons, ih]
      by_cases hc : c = separator
      · subst hc
        simp [splitAt_cons_self, hx]
      · obtain ⟨piece, pieces, hs⟩ := exists_splitAt_eq_cons separator rest
        rw [splitAt_cons_of_ne hc hs, hs]
        simp [or_assoc]

/-! ### Up to the first separator -/

/-- The first separator of a text ends what is before it. -/
theorem cutAt?_append {separator : α} {before : List α} (h : separator ∉ before)
    (after : List α) :
    cutAt? separator (before ++ separator :: after) = some (before, after) := by
  induction before with
  | nil => rw [List.nil_append, cutAt?, if_pos rfl]
  | cons c before ih =>
      rw [List.mem_cons, not_or] at h
      rw [List.cons_append, cutAt?, if_neg (Ne.symm h.1), ih h.2]
      rfl

end Transcode.Text
