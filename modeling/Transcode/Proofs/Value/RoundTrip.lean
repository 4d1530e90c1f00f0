import Transcode.Proofs.Value.Escapes
import Transcode.Proofs.Value.Members
import Transcode.Proofs.Value.Numerals

/-!
# Values that are saved and read again

A written value is read back as it was. This holds of the values that can be written without loss
and read at all: those without numbers of double precision and without halves, whose whole numbers
have no more digits than are read, whose objects have each name once, and which are nested no deeper
than is read.

The induction is on the value. What stands behind it is arbitrary, but must not go on with a number,
and the fuel is that of the reader, twice the length of the text.

## Main definitions

* `Value.IsPlain` — the values that are kept, by the depth to which they are nested;
* `Value.ReadsAs`, `Value.SkipsTo` — what is read and skipped, wherever a text stands.

## Main results

* `IsPlain.same_self` — such a value is equal to itself;
* `readsAs_items`, `readsAs_entries` — parts that are read back one by one, from the last one on;
* `IsPlain.isReadBack` — a written value is read back, whatever stands behind it;
* `readWhole_write`, `read_write` — a value is read back from its text.
-/

namespace Transcode.Value

open Text (HasNoHalf)

/-- A value that `write` and `read` keep: no number of double precision, no whole number beyond
`maxDigits`, no half in a text, no name twice in an object, and lists and objects nested no deeper
than `depth`. -/
inductive IsPlain : (depth : Nat) → Value → Prop where
  | null {depth : Nat} : IsPlain depth .null
  | bool {depth : Nat} (b : Bool) : IsPlain depth (.bool b)
  | int {depth : Nat} {n : Int} (hcount : digitCount n ≤ maxDigits) : IsPlain depth (.int n)
  | text {depth : Nat} {t : Text} (ht : t.HasNoHalf) : IsPlain depth (.text t)
  | list {depth : Nat} {items : List Value} (hitems : ∀ item ∈ items, IsPlain depth item) :
      IsPlain (depth + 1) (.list items)
  | object {depth : Nat} {entries : List (Text × Value)} (hnames : (entries.map Prod.fst).Nodup)
      (htexts : ∀ entry ∈ entries, entry.1.HasNoHalf)
      (hvalues : ∀ entry ∈ entries, IsPlain depth entry.2) : IsPlain (depth + 1) (.object entries)

/-! ### Equality -/

/-- `sameItems` holds of a list and itself if `same` does so of every item. -/
theorem sameItems_self {items : List Value} (h : ∀ item ∈ items, item.same item = true) :
    sameItems items items = true := by
  induction items with
  | nil => rw [sameItems]
  | cons item rest ih =>
      rw [sameItems, h item List.mem_cons_self, ih fun x hx => h x (List.mem_cons_of_mem _ hx)]
      rfl

/-- `sameEntries` holds of entries and a part of them, if the names of the whole occur once. -/
theorem sameEntries_of_subset {part entries : List (Text × Value)}
    (hnames : (entries.map Prod.fst).Nodup) (hpart : ∀ entry ∈ part, entry ∈ entries)
    (hsame : ∀ entry ∈ part, entry.2.same entry.2 = true) : sameEntries part entries = true := by
  induction part with
  | nil => rw [sameEntries]
  | cons entry rest ih =>
      obtain ⟨name, value⟩ := entry
      have hfound : Entries.get? name entries = some value :=
        Entries.get?_eq_some_of_mem hnames (hpart _ List.mem_cons_self)
      have hvalue : value.same value = true := hsame _ List.mem_cons_self
      rw [sameEntries, hfound, ih (fun x hx => hpart x (List.mem_cons_of_mem _ hx))
        fun x hx => hsame x (List.mem_cons_of_mem _ hx)]
      simp only [hvalue, Bool.and_self]

/-- `same` holds of a plain value and itself. -/
theorem IsPlain.same_self {depth : Nat} {v : Value} (h : IsPlain depth v) : v.same v = true := by
  induction h with
  | null => rw [same]
  | bool b => cases b <;> decide
  | int =>
      rw [same]
      · simp [isNumber, sameNumber, ratio?]
      all_goals simp
  | text => simp [same]
  | list _ ih => rw [same, sameItems_self ih]
  | object hnames _ _ ih =>
      rw [same, sameEntries_of_subset hnames (fun _ h => h) ih]
      simp

/-! ### Where a value begins -/

/-- The characters that `skipBlanks` skips. -/
def blanks : List Char := [' ', '\t', '\n', '\r']

/-- The characters that a value which is written by `writeAt` never begins with. -/
def outside : List Char := blanks ++ [']', '\x7d', '\uFEFF']

/-- A digit is none of `outside`. -/
theorem not_mem_outside_of_isDigit {c : Char} (h : isDigit c = true) : c ∉ outside := by
  intro hmem
  have hall : outside.all (fun c => !isDigit c) = true := by decide
  have hnot := List.all_eq_true.mp hall c hmem
  rw [h] at hnot
  exact absurd hnot (by decide)

/-- What `writeAt` gives for a plain value begins with a character that is not `outside`. -/
theorem IsPlain.exists_cons_writeAt {depth : Nat} {v : Value} (h : IsPlain depth v) (level : Nat) :
    ∃ c more, writeAt level v = c :: more ∧ c ∉ outside := by
  cases h with
  | null => exact ⟨_, _, by rw [writeAt], by decide⟩
  | bool b => cases b <;> exact ⟨_, _, by rw [writeAt], by decide⟩
  | @int _ n =>
      obtain ⟨negative, -, htext⟩ := exists_toList_toString n
      obtain ⟨c, more, hc, hdigit⟩ := exists_cons_toDigits n.natAbs
      rw [writeAt, htext, hc]
      cases negative with
      | false => exact ⟨c, more, rfl, not_mem_outside_of_isDigit hdigit⟩
      | true => exact ⟨'-', c :: more, rfl, by decide⟩
  | text => exact ⟨'"', _, by rw [writeAt, writeText, List.cons_append], by decide⟩
  | @list _ items =>
      cases items with
      | nil => exact ⟨_, _, by rw [writeAt], by decide⟩
      | cons => exact ⟨'[', _, by simp only [writeAt, List.cons_append]; rfl, by decide⟩
  | @object _ entries =>
      cases entries with
      | nil => exact ⟨_, _, by rw [writeAt], by decide⟩
      | cons => exact ⟨'\x7b', _, by simp only [writeAt, List.cons_append]; rfl, by decide⟩

/-! ### Reading from any place -/

/-- From any place, `reader` gives `a` and leaves `rest`. -/
def ReadsAs {α : Type} (reader : Nat → List Char → Piece α) (cs : List Char) (a : α)
    (rest : List Char) : Prop :=
  ∀ i, ∃ j, reader i cs = .ok (a, j, rest)

/-- From any place, `skipBlanks` leaves `rest`. -/
def SkipsTo (cs rest : List Char) : Prop :=
  ∀ i, ∃ j, skipBlanks i cs = (j, rest)

/-- `skipBlanks` stays where no blank stands. -/
theorem skipBlanks_of_not_mem {c : Char} (h : c ∉ blanks) (i : Nat) (rest : List Char) :
    skipBlanks i (c :: rest) = (i, c :: rest) := by
  have hne (d : Char) (hd : d ∈ blanks) (more : List Char) : c :: rest ≠ d :: more := fun heq =>
    h ((List.cons.inj heq).1 ▸ hd)
  rw [skipBlanks]
  · exact hne ' ' (by decide)
  · exact hne '\t' (by decide)
  · exact hne '\n' (by decide)
  · exact hne '\r' (by decide)

theorem skipsTo_self {c : Char} (h : c ∉ blanks) (rest : List Char) :
    SkipsTo (c :: rest) (c :: rest) :=
  fun i => ⟨i, skipBlanks_of_not_mem h i rest⟩

theorem SkipsTo.space {cs rest : List Char} (h : SkipsTo cs rest) : SkipsTo (' ' :: cs) rest :=
  fun i => (h (i + 1)).imp fun _ hj => by rw [skipBlanks, hj]

/-- `newLine` is skipped with its blanks. -/
theorem skipsTo_newLine {cs : List Char} (h : SkipsTo cs cs) (level : Nat) :
    SkipsTo (newLine level ++ cs) cs := by
  have hblanks : ∀ count, SkipsTo (List.replicate count ' ' ++ cs) cs := by
    intro count
    induction count with
    | zero => exact h
    | succ count ih => exact ih.space
  exact fun i => (hblanks (2 * level) (i + 1)).imp fun _ hj => by
    rw [newLine, List.cons_append, skipBlanks, hj]

/-- `readText` reads what `writeText` gives, from any place. -/
theorem exists_readsAs_writeText {t : Text} (ht : t.HasNoHalf) (rest : List Char) :
    ∃ more, writeText t ++ rest = '"' :: more ∧ ReadsAs readText more t rest := by
  obtain ⟨more, -, htext, -⟩ := exists_readText_writeText ht 0 rest
  refine ⟨more, htext, fun i => ?_⟩
  obtain ⟨more, j, htext', hj⟩ := exists_readText_writeText ht i rest
  obtain ⟨-, rfl⟩ := List.cons.inj (htext.symm.trans htext')
  exact ⟨j, hj⟩

/-! ### Items and entries, one at a time -/

section Steps

variable {fuel depth : Nat} {cs rest more next after colon behind start : List Char}

/-- `readItems` ends at the item with a closing bracket behind it. -/
theorem readsAs_items_last {item : Value} (hitem : ReadsAs (readValue fuel depth) cs item rest)
    (hclose : SkipsTo rest (']' :: more)) :
    ReadsAs (readItems (fuel + 1) depth) cs [item] more := by
  intro i
  obtain ⟨j, hj⟩ := hitem i
  obtain ⟨k, hk⟩ := hclose j
  refine ⟨k + 1, ?_⟩
  rw [readItems, hj]
  simp only [hk]

/-- `readItems` goes on behind an item with a comma. -/
theorem readsAs_items_comma {item : Value} {items : List Value}
    (hitem : ReadsAs (readValue fuel depth) cs item rest) (hcomma : SkipsTo rest (',' :: more))
    (hblanks : SkipsTo more next) (hitems : ReadsAs (readItems fuel depth) next items after) :
    ReadsAs (readItems (fuel + 1) depth) cs (item :: items) after := by
  intro i
  obtain ⟨j, hj⟩ := hitem i
  obtain ⟨k, hk⟩ := hcomma j
  obtain ⟨l, hl⟩ := hblanks (k + 1)
  obtain ⟨m, hm⟩ := hitems l
  refine ⟨m, ?_⟩
  rw [readItems, hj]
  simp only [hk, hl, hm]

/-- `readEntries` ends at the entry with a closing brace behind it. -/
theorem readsAs_entries_last {name : Text} {value : Value} (hname : ReadsAs readText cs name colon)
    (hcolon : SkipsTo colon (':' :: behind)) (hbehind : SkipsTo behind start)
    (hvalue : ReadsAs (readValue fuel depth) start value rest)
    (hclose : SkipsTo rest ('\x7d' :: more)) :
    ReadsAs (readEntries (fuel + 1) depth) ('"' :: cs) [(name, value)] more := by
  intro i
  obtain ⟨j, hj⟩ := hname i
  obtain ⟨k, hk⟩ := hcolon j
  obtain ⟨l, hl⟩ := hbehind (k + 1)
  obtain ⟨m, hm⟩ := hvalue l
  obtain ⟨n, hn⟩ := hclose m
  refine ⟨n + 1, ?_⟩
  rw [readEntries]
  simp only [hj, hk, hl, hm, hn]

/-- `readEntries` goes on behind an entry with a comma. -/
theorem readsAs_entries_comma {name : Text} {value : Value} {entries : List (Text × Value)}
    (hname : ReadsAs readText cs name colon) (hcolon : SkipsTo colon (':' :: behind))
    (hbehind : SkipsTo behind start) (hvalue : ReadsAs (readValue fuel depth) start value rest)
    (hcomma : SkipsTo rest (',' :: more)) (hblanks : SkipsTo more next)
    (hentries : ReadsAs (readEntries fuel depth) next entries after) :
    ReadsAs (readEntries (fuel + 1) depth) ('"' :: cs) ((name, value) :: entries) after := by
  intro i
  obtain ⟨j, hj⟩ := hname i
  obtain ⟨k, hk⟩ := hcolon j
  obtain ⟨l, hl⟩ := hbehind (k + 1)
  obtain ⟨m, hm⟩ := hvalue l
  obtain ⟨n, hn⟩ := hcomma m
  obtain ⟨o, ho⟩ := hblanks (n + 1)
  obtain ⟨p, hp⟩ := hentries o
  refine ⟨p, ?_⟩
  rw [readEntries]
  simp only [hj, hk, hl, hm, hn, ho, hp]

/-- `readValue` gives no items for a list that is closed at once. -/
theorem readsAs_list_nil (hclose : SkipsTo cs (']' :: rest)) :
    ReadsAs (readValue (fuel + 1) (depth + 1)) ('[' :: cs) (.list []) rest := by
  intro i
  obtain ⟨j, hj⟩ := hclose (i + 1)
  exact ⟨j + 1, by simp only [readValue, hj]⟩

/-- `readValue` gives the list of what `readItems` reads behind a bracket. -/
theorem readsAs_list {items : List Value} (hblanks : SkipsTo cs next)
    (hne : ∀ behind, next ≠ ']' :: behind)
    (hitems : ReadsAs (readItems fuel depth) next items rest) :
    ReadsAs (readValue (fuel + 1) (depth + 1)) ('[' :: cs) (.list items) rest := by
  intro i
  obtain ⟨j, hj⟩ := hblanks (i + 1)
  obtain ⟨k, hk⟩ := hitems j
  refine ⟨k, ?_⟩
  rw [readValue, hj]
  split
  next heq => exact absurd (congrArg Prod.snd heq) (hne _)
  next heq =>
    obtain ⟨rfl, rfl⟩ := Prod.mk.inj heq
    rw [hk]

/-- `readValue` gives no entries for an object that is closed at once. -/
theorem readsAs_object_nil (hclose : SkipsTo cs ('\x7d' :: rest)) :
    ReadsAs (readValue (fuel + 1) (depth + 1)) ('\x7b' :: cs) (.object []) rest := by
  intro i
  obtain ⟨j, hj⟩ := hclose (i + 1)
  exact ⟨j + 1, by rw [readValue_brace, readMembers_of_close hj]; rfl⟩

/-- `readValue` gives `Entries.ofList` of what `readEntries` reads behind a brace. -/
theorem readsAs_object {entries : List (Text × Value)} (hblanks : SkipsTo cs next)
    (hne : ∀ behind, next ≠ '\x7d' :: behind)
    (hentries : ReadsAs (readEntries fuel depth) next entries rest) :
    ReadsAs (readValue (fuel + 1) (depth + 1)) ('\x7b' :: cs) (.object (Entries.ofList entries))
      rest := by
  intro i
  obtain ⟨j, hj⟩ := hblanks (i + 1)
  obtain ⟨k, hk⟩ := hentries j
  exact ⟨k, by rw [readValue_brace, readMembers_of_ne hj hne, hk]⟩

end Steps

/-! ### Values -/

section Values

variable {depth : Nat} {items : List Value} {entries : List (Text × Value)}

theorem writeItems_cons {item next : Value} {more : List Value} (level : Nat) :
    writeItems level (item :: next :: more) =
      writeAt level item ++ ',' :: (newLine level ++ writeItems level (next :: more)) := by
  rw [writeItems, List.append_assoc, List.cons_append]
  exact List.cons_ne_nil next more

theorem writeEntries_cons {name : Text} {value : Value} {next : Text × Value}
    {more : List (Text × Value)} (level : Nat) :
    writeEntries level ((name, value) :: next :: more) =
      writeText name ++ ':' :: ' ' :: (writeAt level value ++
        ',' :: (newLine level ++ writeEntries level (next :: more))) := by
  rw [writeEntries]
  · simp only [List.append_assoc, List.cons_append]
  · exact List.cons_ne_nil next more

theorem writeAt_list_cons {item : Value} {more : List Value} (level : Nat) :
    writeAt level (.list (item :: more)) =
      '[' :: (newLine (level + 1) ++
        (writeItems (level + 1) (item :: more) ++ (newLine level ++ [']']))) := by
  rw [writeAt]
  · simp only [List.append_assoc, List.cons_append]
  · exact List.cons_ne_nil item more

theorem writeAt_object_cons {entry : Text × Value} {more : List (Text × Value)} (level : Nat) :
    writeAt level (.object (entry :: more)) =
      '\x7b' :: (newLine (level + 1) ++
        (writeEntries (level + 1) (entry :: more) ++ (newLine level ++ ['\x7d']))) := by
  rw [writeAt]
  · simp only [List.append_assoc, List.cons_append]
  · exact List.cons_ne_nil entry more

/-- `writeItems` begins with the first item. -/
theorem exists_writeItems_eq (item : Value) (more : List Value) (level : Nat) :
    ∃ behind, writeItems level (item :: more) = writeAt level item ++ behind := by
  cases more with
  | nil => exact ⟨[], by rw [writeItems, List.append_nil]⟩
  | cons next more => exact ⟨_, writeItems_cons level⟩

/-- `writeEntries` begins with a quote. -/
theorem exists_writeEntries_eq (entry : Text × Value) (more : List (Text × Value)) (level : Nat) :
    ∃ behind, writeEntries level (entry :: more) = '"' :: behind := by
  cases more with
  | nil => exact ⟨_, by rw [writeEntries, writeText, List.cons_append, List.cons_append]⟩
  | cons next more =>
      exact ⟨_, by rw [writeEntries_cons, writeText, List.cons_append, List.cons_append]⟩

/-- A new line and a closing sign stand behind the last part. -/
theorem skipsTo_newLine_cons {c : Char} (h : c ∉ blanks) (level : Nat) (rest : List Char) :
    SkipsTo (newLine level ++ c :: rest) (c :: rest) :=
  skipsTo_newLine (skipsTo_self h rest) level

/-- In front of what `writeAt` gives for a plain value nothing is skipped, and no bracket closes a
list there. -/
theorem IsPlain.skipsTo {v : Value} (h : IsPlain depth v) (level : Nat) (rest : List Char) :
    SkipsTo (writeAt level v ++ rest) (writeAt level v ++ rest) ∧
      ∀ behind, writeAt level v ++ rest ≠ ']' :: behind := by
  obtain ⟨c, more, hc, hne⟩ := h.exists_cons_writeAt level
  have hblank : c ∉ blanks := fun hmem => hne (List.mem_append_left _ hmem)
  have hclose : c ≠ ']' := fun heq => hne (heq ▸ by decide)
  rw [hc, List.cons_append]
  exact ⟨skipsTo_self hblank _, fun _ heq => hclose (List.cons.inj heq).1⟩

/-- `readValue` reads `writeAt` back at each level of nesting, with fuel for its length, in front of
whatever does not go on with a number. -/
def IsReadBack (depth : Nat) (v : Value) : Prop :=
  ∀ level fuel rest, 2 * (writeAt level v).length ≤ fuel → EndsNumber rest →
    ReadsAs (readValue fuel depth) (writeAt level v ++ rest) v rest

/-- `readItems` reads `writeItems` back, up to the bracket, if each item has `IsReadBack`. -/
theorem readsAs_items (hne : items ≠ []) (hplain : ∀ item ∈ items, IsPlain depth item)
    (hitems : ∀ item ∈ items, IsReadBack depth item) (level behind fuel : Nat) (rest : List Char)
    (hfuel : 2 * (writeItems level items).length < fuel) :
    ReadsAs (readItems fuel depth) (writeItems level items ++ (newLine behind ++ ']' :: rest)) items
      rest := by
  induction items generalizing fuel with
  | nil => exact absurd rfl hne
  | cons item more ih =>
      obtain ⟨fuel, rfl⟩ : ∃ n, fuel = n + 1 := ⟨fuel - 1, by omega⟩
      have hitem : IsReadBack depth item := hitems item List.mem_cons_self
      cases more with
      | nil =>
          rw [writeItems] at hfuel ⊢
          exact readsAs_items_last
            (hitem level fuel _ (by omega) (endsNumber_cons (by decide) _))
            (skipsTo_newLine_cons (by decide) behind rest)
      | cons next more =>
          rw [writeItems_cons] at hfuel ⊢
          simp only [List.length_append, List.length_cons] at hfuel
          simp only [List.append_assoc, List.cons_append]
          have hrest := ih (List.cons_ne_nil _ _)
            (fun x hx => hplain x (List.mem_cons_of_mem _ hx))
            (fun x hx => hitems x (List.mem_cons_of_mem _ hx)) fuel (by omega)
          obtain ⟨tail, htail⟩ := exists_writeItems_eq next more level
          rw [htail, List.append_assoc] at hrest ⊢
          have hnext :=
            (hplain next (by simp)).skipsTo level (tail ++ (newLine behind ++ ']' :: rest))
          exact readsAs_items_comma
            (hitem level fuel _ (by omega) (endsNumber_cons (by decide) _))
            (skipsTo_self (by decide) _) (skipsTo_newLine hnext.1 level) hrest

/-- `readEntries` reads `writeEntries` back, up to the brace, if each value has `IsReadBack`. -/
theorem readsAs_entries (hne : entries ≠ []) (htexts : ∀ entry ∈ entries, entry.1.HasNoHalf)
    (hplain : ∀ entry ∈ entries, IsPlain depth entry.2)
    (hvalues : ∀ entry ∈ entries, IsReadBack depth entry.2) (level behind fuel : Nat)
    (rest : List Char) (hfuel : 2 * (writeEntries level entries).length < fuel) :
    ReadsAs (readEntries fuel depth)
      (writeEntries level entries ++ (newLine behind ++ '\x7d' :: rest)) entries rest := by
  induction entries generalizing fuel with
  | nil => exact absurd rfl hne
  | cons entry more ih =>
      obtain ⟨name, value⟩ := entry
      obtain ⟨fuel, rfl⟩ : ∃ n, fuel = n + 1 := ⟨fuel - 1, by omega⟩
      have hname := htexts _ List.mem_cons_self
      have hvalue : IsReadBack depth value := hvalues _ List.mem_cons_self
      have hblanks := fun rest => ((hplain _ List.mem_cons_self).skipsTo level rest).1
      cases more with
      | nil =>
          rw [writeEntries] at hfuel ⊢
          simp only [List.length_append, List.length_cons] at hfuel
          simp only [List.append_assoc, List.cons_append]
          obtain ⟨quoted, htext, hread⟩ := exists_readsAs_writeText hname
            (':' :: ' ' :: (writeAt level value ++ (newLine behind ++ '\x7d' :: rest)))
          rw [htext]
          exact readsAs_entries_last hread (skipsTo_self (by decide) _) (hblanks _).space
            (hvalue level fuel _ (by omega) (endsNumber_cons (by decide) _))
            (skipsTo_newLine_cons (by decide) behind rest)
      | cons next more =>
          rw [writeEntries_cons] at hfuel ⊢
          simp only [List.length_append, List.length_cons] at hfuel
          simp only [List.append_assoc, List.cons_append]
          have hrest := ih (List.cons_ne_nil _ _)
            (fun x hx => htexts x (List.mem_cons_of_mem _ hx))
            (fun x hx => hplain x (List.mem_cons_of_mem _ hx))
            (fun x hx => hvalues x (List.mem_cons_of_mem _ hx)) fuel (by omega)
          obtain ⟨tail, htail⟩ := exists_writeEntries_eq next more level
          rw [htail, List.cons_append] at hrest ⊢
          obtain ⟨quoted, htext, hread⟩ := exists_readsAs_writeText hname
            (':' :: ' ' :: (writeAt level value ++
              ',' :: (newLine level ++ '"' :: (tail ++ (newLine behind ++ '\x7d' :: rest)))))
          rw [htext]
          exact readsAs_entries_comma hread (skipsTo_self (by decide) _) (hblanks _).space
            (hvalue level fuel _ (by omega) (endsNumber_cons (by decide) _))
            (skipsTo_self (by decide) _) (skipsTo_newLine_cons (by decide) level _) hrest

/-- Fuel of twice the length of what `writeAt` gives for a plain value is not zero. -/
theorem IsPlain.exists_fuel {v : Value} (h : IsPlain depth v) {level fuel : Nat}
    (hfuel : 2 * (writeAt level v).length ≤ fuel) : ∃ n, fuel = n + 1 := by
  obtain ⟨c, more, hc, -⟩ := h.exists_cons_writeAt level
  rw [hc, List.length_cons] at hfuel
  exact ⟨fuel - 1, by omega⟩

/-- `IsReadBack` of a list, from that of its items. -/
theorem isReadBack_list (hplain : ∀ item ∈ items, IsPlain depth item)
    (hitems : ∀ item ∈ items, IsReadBack depth item) : IsReadBack (depth + 1) (.list items) := by
  intro level fuel rest hfuel _
  obtain ⟨fuel, rfl⟩ := (IsPlain.list hplain).exists_fuel hfuel
  cases items with
  | nil =>
      rw [writeAt]
      exact readsAs_list_nil (skipsTo_self (by decide) rest)
  | cons item more =>
      rw [writeAt_list_cons] at hfuel ⊢
      simp only [List.length_append, List.length_cons] at hfuel
      simp only [List.append_assoc, List.cons_append, List.nil_append]
      have hread := readsAs_items (List.cons_ne_nil item more) hplain hitems (level + 1) level fuel
        rest (by omega)
      obtain ⟨tail, htail⟩ := exists_writeItems_eq item more (level + 1)
      rw [htail, List.append_assoc] at hread ⊢
      obtain ⟨hblanks, hclose⟩ := (hplain item List.mem_cons_self).skipsTo (level + 1)
        (tail ++ (newLine level ++ ']' :: rest))
      exact readsAs_list (skipsTo_newLine hblanks (level + 1)) hclose hread

/-- `IsReadBack` of an object, from that of its values. -/
theorem isReadBack_object (hnames : (entries.map Prod.fst).Nodup)
    (htexts : ∀ entry ∈ entries, entry.1.HasNoHalf)
    (hplain : ∀ entry ∈ entries, IsPlain depth entry.2)
    (hvalues : ∀ entry ∈ entries, IsReadBack depth entry.2) :
    IsReadBack (depth + 1) (.object entries) := by
  intro level fuel rest hfuel _
  obtain ⟨fuel, rfl⟩ := (IsPlain.object hnames htexts hplain).exists_fuel hfuel
  cases entries with
  | nil =>
      rw [writeAt]
      exact readsAs_object_nil (skipsTo_self (by decide) rest)
  | cons entry more =>
      rw [writeAt_object_cons] at hfuel ⊢
      simp only [List.length_append, List.length_cons] at hfuel
      simp only [List.append_assoc, List.cons_append, List.nil_append]
      have hread := readsAs_entries (List.cons_ne_nil entry more) htexts hplain hvalues (level + 1)
        level fuel rest (by omega)
      obtain ⟨tail, htail⟩ := exists_writeEntries_eq entry more (level + 1)
      rw [htail, List.cons_append] at hread ⊢
      have hclose : ∀ behind, '"' :: (tail ++ (newLine level ++ '\x7d' :: rest)) ≠
          '\x7d' :: behind := fun _ heq => absurd (List.cons.inj heq).1 (by decide)
      rw [← Entries.ofList_eq_self hnames]
      exact readsAs_object (skipsTo_newLine_cons (by decide) (level + 1) _) hclose hread

/-- **A plain value is read back from what is written of it**, whatever stands behind it that does
not go on with a number. -/
theorem IsPlain.isReadBack {v : Value} (h : IsPlain depth v) : IsReadBack depth v := by
  induction h with
  | null =>
      intro level fuel rest hfuel _ i
      obtain ⟨fuel, rfl⟩ := (IsPlain.null : IsPlain 0 .null).exists_fuel hfuel
      exact ⟨i + 4, by simp only [writeAt, List.cons_append, List.nil_append, readValue]⟩
  | bool b =>
      intro level fuel rest hfuel _ i
      obtain ⟨fuel, rfl⟩ := (IsPlain.bool b : IsPlain 0 _).exists_fuel hfuel
      cases b with
      | false => exact ⟨i + 5, by simp only [writeAt, List.cons_append, List.nil_append, readValue]⟩
      | true => exact ⟨i + 4, by simp only [writeAt, List.cons_append, List.nil_append, readValue]⟩
  | int hcount =>
      intro level fuel rest hfuel hrest i
      obtain ⟨fuel, rfl⟩ := (IsPlain.int hcount : IsPlain 0 _).exists_fuel hfuel
      rw [writeAt]
      exact exists_readValue_toString hcount hrest fuel _ i
  | text ht =>
      intro level fuel rest hfuel _ i
      obtain ⟨fuel, rfl⟩ := (IsPlain.text ht : IsPlain 0 _).exists_fuel hfuel
      obtain ⟨more, j, htext, hj⟩ := exists_readText_writeText ht i rest
      exact ⟨j, by simp only [writeAt, htext, readValue, hj]⟩
  | list hitems ih => exact isReadBack_list hitems ih
  | object hnames htexts hvalues ih => exact isReadBack_object hnames htexts hvalues ih

end Values

/-! ### Whole texts -/

/-- **A plain value is read back from its whole text.** `maxDepth` is the depth that the reader gets
through. -/
theorem readWhole_write {v : Value} (h : IsPlain maxDepth v) : readWhole v.write = .ok v := by
  obtain ⟨c, more, hc, hne⟩ := h.exists_cons_writeAt 0
  obtain ⟨i, hi⟩ := h.isReadBack 0 (2 * v.write.length + 2) [] (Nat.le_add_right _ _)
    endsNumber_nil 0
  have hblank : c ∉ blanks := fun hmem => hne (List.mem_append_left _ hmem)
  rw [List.append_nil] at hi
  rw [write, hc] at hi ⊢
  unfold readWhole
  split
  next heq => exact absurd ((List.cons.inj heq).1 ▸ hne) (by decide)
  next => simp only [skipBlanks_of_not_mem hblank, hi, skipBlanks]

/-- The same for `read`, which tells places by lines. -/
theorem read_write {v : Value} (h : IsPlain maxDepth v) : read v.write = .ok v := by
  rw [read, readWhole_write h]
  rfl

end Transcode.Value
