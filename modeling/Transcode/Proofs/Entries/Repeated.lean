import Mathlib.Data.List.Nodup
import Transcode.Entries

/-!
# Entries with repeated names

A list of names with values may give a name more than once. Written one after another into entries,
its values override each other, so the last one counts. Writing the same list once more changes
nothing, whatever the entries were before.

## Main definitions

* `Entries.last?` — the last value that a list gives to a name;
* `Entries.putAll` — the values of a list, written one after another.

## Main results

* `get?_putAll` — what is under a name after a list has been written;
* `get?_ofList`, `last?_ofList` — the entries of a list give each name its last value;
* `putAll_putAll` — writing a list twice is writing it once.
-/

namespace Transcode.Entries

variable {ν α : Type} [DecidableEq ν]

/-- The last value that a list gives to a name. -/
def last? (name : ν) : List (ν × α) → Option α
  | [] => none
  | (n, v) :: rest => (last? name rest).or (if n = name then some v else none)

/-- The values of a list are written one after another, by `put`. -/
def putAll (updates : List (ν × α)) (entries : Entries ν α) : Entries ν α :=
  updates.foldl (fun done entry => put entry.1 entry.2 done) entries

theorem putAll_cons (entry : ν × α) (updates : List (ν × α)) (entries : Entries ν α) :
    putAll (entry :: updates) entries = putAll updates (put entry.1 entry.2 entries) := rfl

theorem ofList_eq_putAll (entries : List (ν × α)) : ofList entries = putAll entries [] := rfl

/-! ### What is under a name -/

/-- After `putAll`, under a name is the last value that has been written to it, or else what was
there before. -/
theorem get?_putAll (name : ν) (updates : List (ν × α)) (entries : Entries ν α) :
    get? name (putAll updates entries) = (last? name updates).or (get? name entries) := by
  induction updates generalizing entries with
  | nil => rfl
  | cons update rest ih =>
      rw [putAll_cons, ih, last?]
      cases last? name rest with
      | some value => rfl
      | none =>
          by_cases h : update.1 = name
          · subst h
            simp [get?_put_self]
          · simp [h, get?_put_of_ne (Ne.symm h)]

/-- `ofList` has under each name its last value. -/
theorem get?_ofList (name : ν) (entries : List (ν × α)) :
    get? name (ofList entries) = last? name entries := by
  rw [ofList_eq_putAll, get?_putAll]
  simp [get?]

/-! ### Names that occur once -/

/-- After `put`, a value has a name that was there, or the one that it is written to. -/
theorem mem_names_put {name other : ν} {value : α} {entries : Entries ν α} :
    other ∈ (put name value entries).map Prod.fst ↔
      other = name ∨ other ∈ entries.map Prod.fst := by
  induction entries with
  | nil => simp [put]
  | cons entry rest ih =>
      by_cases h : entry.1 = name
      · simp [put, h]
      · simp only [put, h, if_false, List.map_cons, List.mem_cons, ih]
        tauto

/-- `put` leaves a name once if no name occurred more often before. -/
theorem nodup_put {name : ν} {value : α} {entries : Entries ν α}
    (h : (entries.map Prod.fst).Nodup) : ((put name value entries).map Prod.fst).Nodup := by
  induction entries with
  | nil => simp [put]
  | cons entry rest ih =>
      rw [List.map_cons, List.nodup_cons] at h
      by_cases hn : entry.1 = name
      · subst hn
        simpa [put] using h
      · rw [put, if_neg hn, List.map_cons, List.nodup_cons, mem_names_put]
        refine ⟨?_, ih h.2⟩
        rintro (heq | hmem)
        · exact hn heq
        · exact h.1 hmem

/-- `ofList` has each name once. -/
theorem nodup_ofList (entries : List (ν × α)) : ((ofList entries).map Prod.fst).Nodup := by
  have hput : ∀ (updates : List (ν × α)) (done : Entries ν α),
      (done.map Prod.fst).Nodup → ((putAll updates done).map Prod.fst).Nodup := by
    intro updates
    induction updates with
    | nil => exact fun _ h => h
    | cons update rest ih => exact fun done h => ih _ (nodup_put h)
  exact hput entries [] List.nodup_nil

/-- `ofList` has the names of the list. -/
theorem mem_names_ofList {name : ν} {entries : List (ν × α)} :
    name ∈ (ofList entries).map Prod.fst ↔ name ∈ entries.map Prod.fst := by
  have hputAll : ∀ (updates : List (ν × α)) (done : Entries ν α),
      name ∈ (putAll updates done).map Prod.fst ↔
        name ∈ done.map Prod.fst ∨ name ∈ updates.map Prod.fst := by
    intro updates
    induction updates with
    | nil => exact fun done => by simp [putAll]
    | cons update rest ih =>
        intro done
        rw [putAll_cons, ih, mem_names_put, List.map_cons, List.mem_cons]
        tauto
  rw [ofList_eq_putAll, hputAll]
  simp

/-- `last?` finds nothing for a name without an entry. -/
theorem last?_eq_none {name : ν} {entries : List (ν × α)} (h : name ∉ entries.map Prod.fst) :
    last? name entries = none := by
  induction entries with
  | nil => rfl
  | cons entry rest ih =>
      rw [List.map_cons, List.mem_cons, not_or] at h
      rw [last?, ih h.2, if_neg (Ne.symm h.1)]
      rfl

/-- `last?` finds what `get?` finds, where names occur once. -/
theorem last?_eq_get? {name : ν} {entries : List (ν × α)} (h : (entries.map Prod.fst).Nodup) :
    last? name entries = get? name entries := by
  induction entries with
  | nil => rfl
  | cons entry rest ih =>
      rw [List.map_cons, List.nodup_cons] at h
      rw [last?, get?]
      by_cases hn : entry.1 = name
      · rw [last?_eq_none (hn ▸ h.1), if_pos hn, if_pos hn]
        rfl
      · rw [if_neg hn, if_neg hn, ih h.2, Option.or_none]

/-- `ofList` leaves each name with the same `last?` value. -/
theorem last?_ofList (name : ν) (entries : List (ν × α)) :
    last? name (ofList entries) = last? name entries := by
  rw [last?_eq_get? (nodup_ofList entries), get?_ofList]

/-- `put` of a name that has no value goes to the end. -/
theorem put_eq_append {name : ν} {value : α} {entries : Entries ν α}
    (h : name ∉ entries.map Prod.fst) : put name value entries = entries ++ [(name, value)] := by
  induction entries with
  | nil => rfl
  | cons entry rest ih =>
      rw [List.map_cons, List.mem_cons, not_or] at h
      rw [put, if_neg (Ne.symm h.1), ih h.2, List.cons_append]

/-- `get?` finds each entry under its name, where names occur once. -/
theorem get?_eq_some_of_mem {entries : Entries ν α} (h : (entries.map Prod.fst).Nodup)
    {entry : ν × α} (hmem : entry ∈ entries) : get? entry.1 entries = some entry.2 := by
  induction entries with
  | nil => cases hmem
  | cons first rest ih =>
      rw [List.map_cons, List.nodup_cons] at h
      rcases List.mem_cons.mp hmem with rfl | hrest
      · rw [get?, if_pos rfl]
      · have hne : first.1 ≠ entry.1 := fun heq => h.1 (heq ▸ List.mem_map_of_mem hrest)
        rw [get?, if_neg hne, ih h.2 hrest]

/-- `ofList` leaves entries whose names occur once. -/
theorem ofList_eq_self {entries : List (ν × α)} (h : (entries.map Prod.fst).Nodup) :
    ofList entries = entries := by
  have happend : ∀ (updates : List (ν × α)) (done : Entries ν α),
      ((done ++ updates).map Prod.fst).Nodup → putAll updates done = done ++ updates := by
    intro updates
    induction updates with
    | nil => exact fun done _ => (List.append_nil done).symm
    | cons update rest ih =>
        intro done hnodup
        have hnew : update.1 ∉ done.map Prod.fst := by
          rw [List.map_append, List.map_cons] at hnodup
          exact fun hmem => List.disjoint_of_nodup_append hnodup hmem List.mem_cons_self
        have hall : ((done ++ [update]) ++ rest) = done ++ update :: rest := by simp
        rw [putAll_cons, put_eq_append hnew, ih _ (by rwa [hall]), hall]
  rw [ofList_eq_putAll, happend entries [] (by simpa using h), List.nil_append]

/-! ### Writing twice -/

/-- `put` of a value that is there already changes nothing. -/
theorem put_eq_self {name : ν} {value : α} {entries : Entries ν α}
    (h : get? name entries = some value) : put name value entries = entries := by
  induction entries with
  | nil => cases h
  | cons entry rest ih =>
      obtain ⟨n, v⟩ := entry
      by_cases hn : n = name
      · simp_all [get?, put]
      · rw [get?, if_neg hn] at h
        rw [put, if_neg hn, ih h]

/-- `put` of two values to names that differ may be done in any order, if one of the names is there.
-/
theorem put_comm {name other : ν} (hne : name ≠ other) {value first : α} (second : α)
    {entries : Entries ν α} (h : get? name entries = some first) :
    put other second (put name value entries) = put name value (put other second entries) := by
  induction entries with
  | nil => cases h
  | cons entry rest ih =>
      obtain ⟨n, v⟩ := entry
      by_cases hn : n = name
      · subst hn
        simp [put, hne]
      · rw [get?, if_neg hn] at h
        by_cases ho : n = other
        · subst ho
          simp [put, hn]
        · simp [put, hn, ho, ih h]

/-- `put` to a name that is there does not matter if the name is written to again. -/
theorem putAll_put {name : ν} {value first : α} {updates : List (ν × α)} {entries : Entries ν α}
    (hmem : name ∈ updates.map Prod.fst) (h : get? name entries = some first) :
    putAll updates (put name value entries) = putAll updates entries := by
  induction updates generalizing entries first with
  | nil => cases hmem
  | cons update rest ih =>
      obtain ⟨n, v⟩ := update
      rw [putAll_cons, putAll_cons]
      by_cases hn : name = n
      · subst hn
        rw [put_put]
      · have hrest : name ∈ rest.map Prod.fst := by simpa [hn] using hmem
        have hget : get? name (put n v entries) = some first := by
          rw [get?_put_of_ne hn, h]
        rw [put_comm hn v h, ih hrest hget]

/-- `putAll` of values that are there already changes nothing. -/
theorem putAll_eq_self {updates : List (ν × α)} {entries : Entries ν α}
    (h : ∀ name value, last? name updates = some value → get? name entries = some value) :
    putAll updates entries = entries := by
  induction updates with
  | nil => rfl
  | cons update rest ih =>
      obtain ⟨n, v⟩ := update
      have hrest : ∀ name value, last? name rest = some value → get? name entries = some value := by
        intro name value hlast
        exact h name value (by rw [last?, hlast, Option.some_or])
      rw [putAll_cons]
      cases hlast : last? n rest with
      | none =>
          -- no later value, so the first one is what is there
          have hfirst : get? n entries = some v := h n v (by rw [last?, hlast, if_pos rfl]; rfl)
          rw [put_eq_self hfirst, ih hrest]
      | some value =>
          have hmem : n ∈ rest.map Prod.fst := by
            by_contra hn
            rw [last?_eq_none hn] at hlast
            cases hlast
          rw [putAll_put hmem (hrest n value hlast), ih hrest]

/-- **`putAll` of a list twice is `putAll` of it once**, whatever the entries were before. -/
theorem putAll_putAll (updates : List (ν × α)) (entries : Entries ν α) :
    putAll updates (putAll updates entries) = putAll updates entries := by
  refine putAll_eq_self fun name value hlast => ?_
  rw [get?_putAll, hlast, Option.some_or]

end Transcode.Entries
