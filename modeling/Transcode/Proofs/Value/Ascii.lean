import Transcode.Proofs.Value.RoundTrip

/-!
# Written values in files

A written value is a text of printable ASCII characters and line feeds. So the reading of line ends
does not change it, and the reader of a file sees what the writer wrote.

## Main definitions

* `Value.isWritten` — the characters of written values.

## Main results

* `IsPlain.all_writeAt` — a value is written with no others;
* `IsPlain.unifyLineEnds_write` — the text of a value is read with the line ends that it has.
-/

namespace Transcode

namespace Value

/-- The characters that `write` uses: line feeds and the printable ones of ASCII. -/
def isWritten (c : Char) : Bool :=
  c == '\n' || decide (0x20 ≤ c.toNat) && decide (c.toNat ≤ 0x7E)

/-! ### Texts -/

theorem all_hexDigits (width n : Nat) : (Text.hexDigits width n).all isWritten = true := by
  induction width generalizing n with
  | zero => rfl
  | succ width ih =>
      have hall : ∀ m : Fin 16, isWritten (Nat.digitChar m) = true := by decide
      have hdigit := hall ⟨n % 16, Nat.mod_lt _ (by decide)⟩
      rw [Text.hexDigits, List.all_append, ih, List.all_cons, hdigit]
      rfl

theorem all_codeEscape (n : Nat) : (codeEscape n).all isWritten = true := by
  rw [codeEscape, List.all_cons, List.all_cons, all_hexDigits]
  decide

/-- A letter with a `simpleEscape?` is `isWritten`. -/
theorem isWritten_of_simpleEscape {e c : Char} (h : simpleEscape? e = some c) :
    isWritten e = true := by
  unfold simpleEscape? at h
  split at h <;> first | rfl | cases h

theorem all_writeChar (c : Char) : (writeChar c).all isWritten = true := by
  obtain ⟨e, -, hescape, hwrite⟩ | ⟨-, -, hlow, hhigh, hwrite⟩ | ⟨-, hwrite⟩ | ⟨-, hwrite⟩ :=
    writeChar_cases c
  · rw [hwrite, List.all_cons, List.all_cons, isWritten_of_simpleEscape hescape]
    rfl
  · have hc : isWritten c = true := by simp [isWritten, hlow, hhigh]
    rw [hwrite, List.all_cons, hc]
    rfl
  · rw [hwrite, all_codeEscape]
  · rw [hwrite, List.all_append, all_codeEscape, all_codeEscape]
    rfl

theorem all_writeText (t : Text) : (writeText t).all isWritten = true := by
  have hsigns : (t.flatMap writeSign).all isWritten = true := by
    induction t with
    | nil => rfl
    | cons s t ih =>
        have hsign : (writeSign s).all isWritten = true := by
          cases s with
          | char c => exact all_writeChar c
          | half n => exact all_codeEscape _
        rw [List.flatMap_cons, List.all_append, hsign, ih]
        rfl
  rw [writeText, List.all_append, List.all_cons, hsigns]
  rfl

/-! ### Values -/

theorem all_newLine (level : Nat) : (newLine level).all isWritten = true := by
  rw [newLine, List.all_cons, List.all_replicate]
  split <;> rfl

theorem all_toString (n : Int) : (toString n).toList.all isWritten = true := by
  obtain ⟨negative, -, htext⟩ := exists_toList_toString n
  have hdigits : (Nat.toDigits 10 n.natAbs).all isWritten = true := by
    rw [List.all_eq_true]
    intro c hc
    have hdigit := isDigit_of_mem_toDigits hc
    simp only [isDigit, Bool.and_eq_true, decide_eq_true_eq] at hdigit
    have hcode : 48 ≤ c.toNat ∧ c.toNat ≤ 57 := hdigit
    simp only [isWritten, Bool.or_eq_true, Bool.and_eq_true, decide_eq_true_eq]
    omega
  rw [htext, List.all_append, hdigits]
  cases negative <;> rfl

/-- `writeItems` uses these characters alone if `writeAt` does so for every item. -/
theorem all_writeItems {items : List Value} {level : Nat}
    (h : ∀ item ∈ items, (writeAt level item).all isWritten = true) :
    (writeItems level items).all isWritten = true := by
  induction items with
  | nil => rw [writeItems]; rfl
  | cons item more ih =>
      have hitem := h item List.mem_cons_self
      cases more with
      | nil => rw [writeItems, hitem]
      | cons next more =>
          rw [writeItems_cons, List.all_append, List.all_cons, List.all_append, hitem, all_newLine,
            ih fun x hx => h x (List.mem_cons_of_mem _ hx)]
          rfl

/-- `writeEntries` uses these characters alone if `writeAt` does so for every value. -/
theorem all_writeEntries {entries : List (Text × Value)} {level : Nat}
    (h : ∀ entry ∈ entries, (writeAt level entry.2).all isWritten = true) :
    (writeEntries level entries).all isWritten = true := by
  induction entries with
  | nil => rw [writeEntries]; rfl
  | cons entry more ih =>
      obtain ⟨name, value⟩ := entry
      have hvalue : (writeAt level value).all isWritten = true := h _ List.mem_cons_self
      cases more with
      | nil =>
          rw [writeEntries, List.all_append, List.all_cons, List.all_cons, all_writeText, hvalue]
          rfl
      | cons next more =>
          rw [writeEntries_cons, List.all_append, List.all_cons, List.all_cons, List.all_append,
            List.all_cons, List.all_append, all_writeText, hvalue, all_newLine,
            ih fun x hx => h x (List.mem_cons_of_mem _ hx)]
          rfl

/-- **A plain value is written with line feeds and printable ASCII characters alone**, by induction
on `IsPlain`. -/
theorem IsPlain.all_writeAt {depth : Nat} {v : Value} (h : IsPlain depth v) (level : Nat) :
    (writeAt level v).all isWritten = true := by
  induction h generalizing level with
  | null => rw [writeAt]; rfl
  | bool b => cases b <;> rw [writeAt] <;> rfl
  | int => rw [writeAt]; exact all_toString _
  | text => rw [writeAt]; exact all_writeText _
  | @list _ items _ ih =>
      cases items with
      | nil => rw [writeAt]; rfl
      | cons item more =>
          rw [writeAt_list_cons]
          simp only [List.all_append, List.all_cons, all_newLine, List.all_nil,
            all_writeItems fun item hitem => ih item hitem (level + 1)]
          rfl
  | @object _ entries _ _ _ ih =>
      cases entries with
      | nil => rw [writeAt]; rfl
      | cons entry more =>
          rw [writeAt_object_cons]
          simp only [List.all_append, List.all_cons, all_newLine, List.all_nil,
            all_writeEntries fun entry hentry => ih entry hentry (level + 1)]
          rfl

/-! ### Line ends -/

/-- Nothing in the text of a plain value is a line end for `Text.unifyLineEnds` but line feeds. -/
theorem IsPlain.unifyLineEnds_write {depth : Nat} {v : Value} (h : IsPlain depth v) :
    Text.unifyLineEnds v.write = v.write :=
  Text.unifyLineEnds_of_not_mem fun hmem =>
    absurd (List.all_eq_true.mp (h.all_writeAt 0) '\r' hmem) (by decide)

end Value

end Transcode
