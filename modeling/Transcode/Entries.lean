/-!
# Entries in order

Settings, environments, objects and loggers are lists of named entries. A name occurs once; giving
it a new value leaves it in its place, and a new name goes to the end. Names are of any type in
which two of them can be told apart.

## Main results

* `get?_put_self`, `get?_put_of_ne` — what an entry holds after one is written;
* `get?_remove_self`, `get?_remove_of_ne` — and after one is taken out;
* `mem_or_eq_of_mem_put`, `put_put` — the entries after one is written;
* `get?_mapValues`, `put_mapValues` — entries whose values are all changed.
-/

namespace Transcode

/-- Named entries in the order in which the names were first given. -/
abbrev Entries (ν α : Type) := List (ν × α)

namespace Entries

variable {ν α : Type} [DecidableEq ν]

/-- The value under a name. -/
def get? (name : ν) : Entries ν α → Option α
  | [] => none
  | (n, v) :: rest => if n = name then some v else get? name rest

/-- The value under a name is replaced where it stands, or added at the end, so that `get?` finds
it. -/
def put (name : ν) (value : α) : Entries ν α → Entries ν α
  | [] => [(name, value)]
  | (n, v) :: rest => if n = name then (name, value) :: rest else (n, v) :: put name value rest

/-- The entries without those of a name. -/
def remove (name : ν) : Entries ν α → Entries ν α
  | [] => []
  | (n, v) :: rest => if n = name then remove name rest else (n, v) :: remove name rest

/-- Entries written one after another with `put`: of several with one name the last one counts, in
the place of the first. -/
def ofList (entries : List (ν × α)) : Entries ν α :=
  entries.foldl (fun done entry => put entry.1 entry.2 done) []

theorem get?_put_self (name : ν) (value : α) (entries : Entries ν α) :
    get? name (put name value entries) = some value := by
  induction entries with
  | nil => simp [put, get?]
  | cons entry rest ih =>
    by_cases h : entry.1 = name
    · simp [put, get?, h]
    · simp [put, get?, h, ih]

theorem get?_put_of_ne {name other : ν} (h : other ≠ name) (value : α) (entries : Entries ν α) :
    get? other (put name value entries) = get? other entries := by
  induction entries with
  | nil => simp [put, get?, h.symm]
  | cons entry rest ih =>
    by_cases hn : entry.1 = name
    · have ho : entry.1 ≠ other := fun ho => h (ho.symm.trans hn)
      simp [put, get?, hn, h.symm]
    · simp [put, get?, hn, ih]

theorem get?_remove_self (name : ν) (entries : Entries ν α) :
    get? name (remove name entries) = none := by
  induction entries with
  | nil => rfl
  | cons entry rest ih =>
    by_cases h : entry.1 = name
    · simp [remove, h, ih]
    · simp [remove, get?, h, ih]

theorem get?_remove_of_ne {name other : ν} (h : other ≠ name) (entries : Entries ν α) :
    get? other (remove name entries) = get? other entries := by
  induction entries with
  | nil => rfl
  | cons entry rest ih =>
    by_cases hn : entry.1 = name
    · simp [remove, get?, hn, h.symm, ih]
    · simp [remove, get?, hn, ih]

/-! ### What is there -/

theorem mem_of_get?_eq_some {name : ν} {value : α} {entries : Entries ν α}
    (h : get? name entries = some value) : (name, value) ∈ entries := by
  induction entries with
  | nil => cases h
  | cons entry rest ih =>
    by_cases hn : entry.1 = name
    · simp only [get?, hn, if_true, Option.some.injEq] at h
      subst hn h
      exact List.mem_cons_self
    · rw [get?, if_neg hn] at h
      exact List.mem_cons_of_mem _ (ih h)

theorem mem_or_eq_of_mem_put {name : ν} {value : α} {entries : Entries ν α} {entry : ν × α}
    (h : entry ∈ put name value entries) : entry ∈ entries ∨ entry = (name, value) := by
  induction entries with
  | nil => exact Or.inr (List.mem_singleton.1 h)
  | cons first rest ih =>
    by_cases hn : first.1 = name
    · rw [put, if_pos hn, List.mem_cons] at h
      exact h.elim Or.inr fun hrest => Or.inl (List.mem_cons_of_mem _ hrest)
    · rw [put, if_neg hn, List.mem_cons] at h
      rcases h with rfl | hrest
      · exact Or.inl List.mem_cons_self
      · exact (ih hrest).imp_left (List.mem_cons_of_mem _)

theorem put_put (name : ν) (first second : α) (entries : Entries ν α) :
    put name second (put name first entries) = put name second entries := by
  induction entries with
  | nil => simp [put]
  | cons entry rest ih =>
    by_cases h : entry.1 = name
    · simp [put, h]
    · simp [put, h, ih]

/-! ### Values that are all changed -/

variable {β : Type}

/-- All values are changed, under the same names. -/
def mapValues (change : α → β) (entries : Entries ν α) : Entries ν β :=
  entries.map fun entry => (entry.1, change entry.2)

theorem get?_mapValues (change : α → β) (name : ν) (entries : Entries ν α) :
    get? name (mapValues change entries) = (get? name entries).map change := by
  induction entries with
  | nil => rfl
  | cons entry rest ih =>
    simp only [mapValues, List.map_cons, get?]
    split
    · rfl
    · exact ih

theorem put_mapValues (change : α → β) (name : ν) (value : α) (entries : Entries ν α) :
    put name (change value) (mapValues change entries) =
      mapValues change (put name value entries) := by
  induction entries with
  | nil => rfl
  | cons entry rest ih =>
    simp only [mapValues, List.map_cons, put]
    split
    · rfl
    · rw [List.map_cons]
      exact congrArg _ ih

end Entries

end Transcode
