import Transcode.Config.Document

/-!
# The names of an object

An object passes the check of its names if all of them are names of settings. If one of them is not,
the check tells which are unknown, since names of objects are texts and always have an order.

## Main results

* `check_object_of_known` — an object that passes;
* `exists_check_object_of_unknown` — an object that does not;
* `known_of_check`, `ofEntries_of_known` — the configuration of an object that has passed.
-/

namespace Transcode.Document

variable {entries : List (Text × Value)}

/-- What `eraseDupsBy` leaves was there before. -/
theorem mem_of_mem_eraseDupsBy {α : Type} {r : α → α → Bool} {items : List α} {x : α}
    (h : x ∈ items.eraseDupsBy r) : x ∈ items := by
  induction hn : items.length using Nat.strongRecOn generalizing items with
  | _ n ih =>
      cases items with
      | nil => cases h
      | cons first rest =>
          rw [List.eraseDupsBy_cons, List.mem_cons] at h
          rcases h with rfl | h
          · exact List.mem_cons_self
          · have hlength := List.length_filter_le (fun b => decide (r b first = false)) rest
            rw [List.length_cons] at hn
            have hrest := ih _ (by omega) h rfl
            exact List.mem_cons_of_mem _ ((List.mem_filter.mp hrest).1)

/-- The names of an object that are unknown. -/
def strangers (entries : List (Text × Value)) : List Value :=
  (entries.map fun entry => Value.text entry.1).filter fun name => !isKnown name

theorem mem_strangers {name : Value} :
    name ∈ strangers entries ↔
      ∃ entry ∈ entries, name = .text entry.1 ∧ Setting.find? entry.1 = none := by
  simp only [strangers, List.mem_filter, List.mem_map]
  constructor
  · rintro ⟨⟨entry, hentry, rfl⟩, hknown⟩
    exact ⟨entry, hentry, rfl, by simpa [isKnown] using hknown⟩
  · rintro ⟨entry, hentry, rfl, hnone⟩
    exact ⟨⟨entry, hentry, rfl⟩, by simp [isKnown, hnone]⟩

/-- An object whose names are those of settings passes the `check`. -/
theorem check_object_of_known (h : ∀ entry ∈ entries, Setting.find? entry.1 ≠ none) :
    check (.object entries) = .ok (.object entries) := by
  have hnone : strangers entries = [] := by
    rw [List.eq_nil_iff_forall_not_mem]
    intro name hname
    obtain ⟨entry, hentry, -, hfind⟩ := mem_strangers.mp hname
    exact h entry hentry hfind
  rw [strangers] at hnone
  simp only [check, names, hnone]
  rfl

/-- Texts are all `ordered`, so the `refusal?` of unknown names that are texts lists all of them. -/
theorem exists_refusal_of_texts {unknown : List Value} (hne : unknown ≠ [])
    (htexts : ∀ name ∈ unknown, ∃ t, name = .text t) :
    ∃ texts, refusal? unknown = some (.unknownSettings texts) := by
  cases unknown with
  | nil => exact absurd rfl hne
  | cons first rest =>
      obtain ⟨t, rfl⟩ := htexts first List.mem_cons_self
      have hordered : rest.find? (fun name => !ordered (.text t) name) = none := by
        rw [List.find?_eq_none]
        intro name hname
        obtain ⟨u, rfl⟩ := htexts name (List.mem_cons_of_mem _ hname)
        simp [ordered]
      rw [refusal?, hordered]
      exact ⟨_, rfl⟩

/-- `check` of an object with an unknown name tells which names are unknown. -/
theorem exists_check_object_of_unknown (h : ∃ entry ∈ entries, Setting.find? entry.1 = none) :
    ∃ unknown, check (.object entries) = .error (.unknownSettings unknown) := by
  obtain ⟨entry, hentry, hfind⟩ := h
  have hmem : Value.text entry.1 ∈ strangers entries :=
    mem_strangers.mpr ⟨entry, hentry, rfl, hfind⟩
  have hne : (strangers entries).eraseDupsBy Value.same ≠ [] := by
    obtain ⟨first, rest, hcons⟩ := List.exists_cons_of_ne_nil (List.ne_nil_of_mem hmem)
    rw [hcons, List.eraseDupsBy_cons]
    exact List.cons_ne_nil _ _
  have htexts : ∀ name ∈ (strangers entries).eraseDupsBy Value.same, ∃ t, name = .text t := by
    intro name hname
    obtain ⟨entry, -, heq, -⟩ := mem_strangers.mp (mem_of_mem_eraseDupsBy hname)
    exact ⟨entry.1, heq⟩
  obtain ⟨unknown, hunknown⟩ := exists_refusal_of_texts hne htexts
  rw [strangers] at hunknown
  refine ⟨unknown, ?_⟩
  simp only [check, names, hunknown]

/-- The names of an object that has passed the `check` are those of settings. -/
theorem known_of_check {value : Value} (h : check (.object entries) = .ok value) :
    ∀ entry ∈ entries, Setting.find? entry.1 ≠ none := by
  intro entry hentry hfind
  obtain ⟨unknown, hunknown⟩ := exists_check_object_of_unknown ⟨entry, hentry, hfind⟩
  rw [hunknown] at h
  cases h

end Transcode.Document

namespace Transcode.Config

/-- `Config.ofEntries` of entries whose names are those of settings succeeds. -/
theorem ofEntries_of_known {entries : List (Text × Value)}
    (h : ∀ entry ∈ entries, Setting.find? entry.1 ≠ none) :
    ofEntries entries = .ok (({} : Config).putAll entries) := by
  have hnone : entries.find? (fun entry => (Setting.find? entry.1).isNone) = none := by
    rw [List.find?_eq_none]
    intro entry hentry
    simp [h entry hentry]
  rw [ofEntries, hnone]

end Transcode.Config
