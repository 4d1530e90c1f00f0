import Mathlib.Data.List.Nodup
import Mathlib.Data.List.Pairwise
import Transcode.Preset.Sorting
import Transcode.Proofs.Preset.Names
import Transcode.Proofs.Sorting

/-!
# What sorting members comes to

Members of one axis are sorted by the order in which the axis lists them, or by the opposite one.
Members of different axes are never sorted, wherever they stand among the others:
`Sorting.yields_sort` says that every two items of a sorted list have been found comparable, and
`Comparison.less` has no answer for two members of different axes.

## Main definitions

* `Axis.listing` — the items on an axis in its order, each as often as it is there.

## Main results

* `Comparison.less_eq_ok_iff`, `Comparison.less_eq_error_iff` — the answers and faults of `<`;
* `sortItems_eq_listing`, `exists_sortItems_eq_error_iff` — sorted members, and the faults;
* `sortMembers_eq_listing` — both of them, in either direction.
-/

namespace Transcode

/-! ### Comparing two items -/

namespace Comparison

variable {a b : Option Member}

/-- `Comparison.less` has an answer exactly for members of one axis, and then it is that of their
ranks. -/
theorem less_eq_ok_iff {below : Bool} :
    Comparison.less.compare a b = .ok below ↔
      ∃ m n, a = some m ∧ b = some n ∧ m.axis = n.axis ∧ below = decide (m.rank < n.rank) := by
  cases a with
  | none => simp [compare]
  | some m =>
      cases b with
      | none => simp [compare]
      | some n =>
          simp only [compare, ofRanks]
          split
          next haxis => simp [haxis, eq_comm]
          next haxis => simp [haxis]

/-- `Comparison.less` has none for members of two axes. -/
theorem less_eq_error_iff {m n : Member} {fault : Fault} :
    Comparison.less.compare (some m) (some n) = .error fault ↔
      m.axis ≠ n.axis ∧ fault = .unordered "<" m.axis.typeName n.axis.typeName := by
  simp only [compare, sign, typeNameOf]
  split
  next haxis => simp [haxis]
  next haxis => simp [haxis, eq_comm]

/-- A member is not before another one exactly if they are of one axis and its rank is not less. -/
theorem less_eq_false_iff {m n : Member} :
    Comparison.less.compare (some n) (some m) = .ok false ↔ m.axis = n.axis ∧ m.rank ≤ n.rank := by
  rw [less_eq_ok_iff]
  simp [eq_comm]

/-- `IsConsistent` holds of `Comparison.less`, with the order of ranks. -/
theorem isConsistent_less : Sorting.IsConsistent Comparison.less.compare where
  asymm h := by
    obtain ⟨m, n, rfl, rfl, haxis, hrank⟩ := less_eq_ok_iff.mp h
    rw [eq_comm, decide_eq_true_eq] at hrank
    exact less_eq_false_iff.mpr ⟨haxis, Nat.le_of_lt hrank⟩
  trans hab hbc := by
    obtain ⟨m, n, rfl, rfl, -⟩ := less_eq_ok_iff.mp hab
    obtain ⟨k, _, rfl, hn, -⟩ := less_eq_ok_iff.mp hbc
    cases hn
    rw [less_eq_false_iff] at hab hbc ⊢
    exact ⟨hab.1.trans hbc.1, Nat.le_trans hab.2 hbc.2⟩

end Comparison

/-! ### The order of an axis -/

/-- Members of one axis with one `Member.rank` are the same. -/
theorem Member.eq_of_rank {m n : Member} (haxis : m.axis = n.axis) (h : m.rank = n.rank) :
    m = n := by
  rw [rank, rank, ← haxis] at h
  exact (List.idxOf_inj (Axis.mem_members m)).mp h

namespace Axis

/-- The items on an axis in the order of `Axis.members`, each as often as it is there. -/
def listing (axis : Axis) (items : List Member) : List Member :=
  axis.members.flatMap fun m => List.replicate (items.count m) m

variable {axis : Axis} {items : List Member}

/-- `listing` begins with the members of the least rank. -/
theorem pairwise_listing (axis : Axis) (items : List Member) :
    (axis.listing items).Pairwise fun a b => a.rank ≤ b.rank := by
  have hmembers : axis.members.Pairwise fun a b => a.rank ≤ b.rank := by
    cases axis <;> decide
  refine List.pairwise_flatMap.mpr ⟨fun m _ => ?_, hmembers.imp fun {m n} hle => ?_⟩
  · exact List.pairwise_replicate.mpr (.inr (Nat.le_refl _))
  · intro a ha b hb
    rwa [List.eq_of_mem_replicate ha, List.eq_of_mem_replicate hb]

/-- `listing` has each member as often as it is there. -/
theorem count_listing (h : ∀ m ∈ items, m.axis = axis) (m : Member) :
    (axis.listing items).count m = items.count m := by
  have hcount : ∀ members : List Member, members.Nodup →
      (members.flatMap fun n => List.replicate (items.count n) n).count m =
        if m ∈ members then items.count m else 0 := by
    intro members
    induction members with
    | nil => simp
    | cons n rest ih =>
        intro hnodup
        rw [List.nodup_cons] at hnodup
        rw [List.flatMap_cons, List.count_append, ih hnodup.2, List.count_replicate]
        by_cases hn : n = m
        · subst hn
          simp [hnodup.1]
        · simp [hn, Ne.symm hn]
  have hnodup : axis.members.Nodup := by cases axis <;> decide
  rw [listing, hcount _ hnodup]
  split
  next => rfl
  next hnot =>
    symm
    rw [List.count_eq_zero]
    exact fun hmem => hnot (Member.mem_members_iff.mpr (h m hmem))

/-- `listing` has the same items as the list. -/
theorem listing_perm (h : ∀ m ∈ items, m.axis = axis) : (axis.listing items).Perm items :=
  List.perm_iff_count.mpr (count_listing h)

/-- `listing` does not look at where the items stand. -/
theorem listing_reverse (axis : Axis) (items : List Member) :
    axis.listing items.reverse = axis.listing items := by
  simp only [listing, List.count_reverse]

/-- `InOrder` holds of items on one axis only if they are their `listing`. -/
theorem eq_listing_of_inOrder {sorted : List (Option Member)} (h : ∀ m ∈ items, m.axis = axis)
    (hperm : sorted.Perm (items.map some))
    (hsorted : Sorting.InOrder Comparison.less.compare sorted) :
    sorted = (axis.listing items).map some := by
  have hlisting : Sorting.InOrder Comparison.less.compare ((axis.listing items).map some) := by
    rw [Sorting.InOrder, List.pairwise_map]
    refine (pairwise_listing axis items).imp_of_mem fun {a b} ha hb hle => ?_
    have haxis (m : Member) (hm : m ∈ axis.listing items) : m.axis = axis :=
      h m ((listing_perm h).subset hm)
    exact Comparison.less_eq_false_iff.mpr ⟨(haxis a ha).trans (haxis b hb).symm, hle⟩
  refine List.Perm.eq_of_pairwise ?_ hsorted hlisting
    (hperm.trans ((listing_perm h).map some).symm)
  intro a b _ _ hab hba
  obtain ⟨n, m, rfl, rfl, -⟩ := Comparison.less_eq_ok_iff.mp hab
  rw [Comparison.less_eq_false_iff] at hab hba
  exact congrArg some (Member.eq_of_rank hab.1 (Nat.le_antisymm hab.2 hba.2))

end Axis

/-! ### Sorting -/

section Sorted

variable {items : List Member} {axis : Axis} {fault : Fault}

/-- `sortItems` faults with the fault of two items of different axes. -/
theorem exists_of_sortItems_eq_error (h : sortItems (items.map some) = .error fault) :
    ∃ a ∈ items, ∃ b ∈ items, a.axis ≠ b.axis ∧
      fault = .unordered "<" a.axis.typeName b.axis.typeName := by
  have hyields := Sorting.yields_sort Comparison.isConsistent_less (items.map some)
  rw [← sortItems, h] at hyields
  obtain ⟨_, hleft, _, hright, hless⟩ := hyields
  obtain ⟨a, ha, rfl⟩ := List.mem_map.mp hleft
  obtain ⟨b, hb, rfl⟩ := List.mem_map.mp hright
  exact ⟨a, ha, b, hb, Comparison.less_eq_error_iff.mp hless⟩

/-- `sortItems` gives the same items, in order. -/
theorem inOrder_of_sortItems {sorted : List (Option Member)}
    (h : sortItems (items.map some) = .ok sorted) :
    sorted.Perm (items.map some) ∧ Sorting.InOrder Comparison.less.compare sorted := by
  have hyields := Sorting.yields_sort Comparison.isConsistent_less (items.map some)
  rwa [← sortItems, h] at hyields

/-- `sortItems` of items of one axis is their `listing`. -/
theorem sortItems_eq_listing (h : ∀ m ∈ items, m.axis = axis) :
    sortItems (items.map some) = .ok ((axis.listing items).map some) := by
  cases hsort : sortItems (items.map some) with
  | error fault =>
      obtain ⟨a, ha, b, hb, hne, -⟩ := exists_of_sortItems_eq_error hsort
      exact absurd ((h a ha).trans (h b hb).symm) hne
  | ok sorted =>
      obtain ⟨hperm, hsorted⟩ := inOrder_of_sortItems hsort
      rw [Axis.eq_listing_of_inOrder h hperm hsorted]

/-- **No two items of different axes escape the comparisons** of a sorting, wherever they stand. -/
theorem exists_sortItems_eq_error_iff :
    (∃ fault, sortItems (items.map some) = .error fault) ↔
      ∃ a ∈ items, ∃ b ∈ items, a.axis ≠ b.axis := by
  constructor
  · rintro ⟨fault, h⟩
    obtain ⟨a, ha, b, hb, hne, -⟩ := exists_of_sortItems_eq_error h
    exact ⟨a, ha, b, hb, hne⟩
  · rintro ⟨a, ha, b, hb, hne⟩
    cases hsort : sortItems (items.map some) with
    | error fault => exact ⟨fault, rfl⟩
    | ok sorted =>
        obtain ⟨hperm, hsorted⟩ := inOrder_of_sortItems hsort
        -- every two items of the sorted list have been found comparable
        have hcomparable : sorted.Pairwise fun a b => a.map Member.axis = b.map Member.axis := by
          refine List.Pairwise.imp (fun {x y} hless => ?_) hsorted
          obtain ⟨m, n, rfl, rfl, haxis, -⟩ := Comparison.less_eq_ok_iff.mp hless
          exact congrArg some haxis.symm
        have hsymm : Std.Symm fun a b : Option Member => a.map Member.axis = b.map Member.axis :=
          ⟨fun _ _ => Eq.symm⟩
        have hmem (m : Member) (hm : m ∈ items) : some m ∈ sorted :=
          hperm.mem_iff.mpr (List.mem_map_of_mem hm)
        have haxis : (some a).map Member.axis = (some b).map Member.axis :=
          @List.Pairwise.forall_of_forall _ _ sorted hsymm (fun _ _ => rfl) hcomparable _
            (hmem a ha) _ (hmem b hb)
        exact absurd (Option.some.inj haxis) hne

/-- `sortMembers` in the opposite order faults as `sortItems` of the opposite list does. -/
theorem sortMembers_eq_error_iff {descending : Bool} :
    sortMembers (items.map some) descending = .error fault ↔
      sortItems ((if descending then items.reverse else items).map some) = .error fault := by
  rw [sortMembers]
  split
  next =>
    rw [List.map_reverse]
    cases sortItems (items.map some).reverse <;> simp [Except.map]
  next => rfl

/-- **`sortMembers` sorts by the order of the axis, or not at all.** Items of one axis come out in
the order in which the axis lists its members, each as often as it was there, and in the opposite
order if that is asked for. A list with items of different axes is refused, however long it is and
wherever they stand, for two of them that cannot be compared; and no other list is. -/
theorem sortMembers_eq_listing :
    (∀ (axis : Axis) (items : List Member), (∀ m ∈ items, m.axis = axis) →
      (axis.listing items).Perm items ∧
        (axis.listing items).Pairwise (fun a b => a.rank ≤ b.rank) ∧
        sortMembers (items.map some) false = .ok ((axis.listing items).map some) ∧
        sortMembers (items.map some) true = .ok ((axis.listing items).reverse.map some)) ∧
    ∀ (items : List Member) (descending : Bool),
      ((∃ fault, sortMembers (items.map some) descending = .error fault) ↔
        ∃ a ∈ items, ∃ b ∈ items, a.axis ≠ b.axis) ∧
      ∀ fault, sortMembers (items.map some) descending = .error fault →
        fault.kind = .kindOfValue ∧ ∃ a ∈ items, ∃ b ∈ items, a.axis ≠ b.axis ∧
          fault = .unordered "<" a.axis.typeName b.axis.typeName := by
  refine ⟨fun axis items h => ?_, fun items descending => ?_⟩
  · have hreversed : ∀ m ∈ items.reverse, m.axis = axis := fun m hm => h m (List.mem_reverse.mp hm)
    refine ⟨Axis.listing_perm h, Axis.pairwise_listing axis items, sortItems_eq_listing h, ?_⟩
    rw [sortMembers, if_pos rfl, ← List.map_reverse, sortItems_eq_listing hreversed,
      Axis.listing_reverse, List.map_reverse]
    rfl
  · have hmem : ∀ m, m ∈ (if descending then items.reverse else items) ↔ m ∈ items := by
      cases descending <;> simp
    have hfault : ∀ fault, sortMembers (items.map some) descending = .error fault →
        ∃ a ∈ items, ∃ b ∈ items, a.axis ≠ b.axis ∧
          fault = .unordered "<" a.axis.typeName b.axis.typeName := by
      intro fault h
      rw [sortMembers_eq_error_iff] at h
      obtain ⟨a, ha, b, hb, hne⟩ := exists_of_sortItems_eq_error h
      exact ⟨a, (hmem a).mp ha, b, (hmem b).mp hb, hne⟩
    refine ⟨⟨fun ⟨fault, h⟩ => ?_, fun ⟨a, ha, b, hb, hne⟩ => ?_⟩, fun fault h => ?_⟩
    · obtain ⟨a, ha, b, hb, hne, -⟩ := hfault fault h
      exact ⟨a, ha, b, hb, hne⟩
    · simp only [sortMembers_eq_error_iff, exists_sortItems_eq_error_iff, hmem]
      exact ⟨a, ha, b, hb, hne⟩
    · obtain ⟨a, ha, b, hb, hne, rfl⟩ := hfault fault h
      exact ⟨rfl, a, ha, b, hb, hne, rfl⟩

/-- Four qualities, two of them the same; and many codecs with one quality far behind. -/
theorem sortMembers_eq_listing_of_repeated :
    let qualities : List Member :=
      [.quality .low, .quality .lossless, .quality .normal, .quality .low]
    let mixed : List Member := List.replicate 99 (.codec .av1) ++ [.quality .low, .codec .h264]
    (∀ m ∈ qualities, m.axis = .quality) ∧
      sortMembers (qualities.map some) true =
        .ok [some (.quality .low), some (.quality .low), some (.quality .normal),
          some (.quality .lossless)] ∧
      ∃ fault, sortMembers (mixed.map some) false = .error fault ∧ fault.kind = .kindOfValue := by
  intro qualities mixed
  obtain ⟨hsorts, hfaults⟩ := sortMembers_eq_listing
  have haxis : ∀ m ∈ qualities, m.axis = .quality := by decide
  obtain ⟨-, -, -, hdescending⟩ := hsorts .quality qualities haxis
  obtain ⟨hiff, hkind⟩ := hfaults mixed false
  obtain ⟨fault, hfault⟩ := hiff.mpr
    ⟨.codec .h264, by simp [mixed], .quality .low, by simp [mixed], by decide⟩
  exact ⟨haxis, hdescending, fault, hfault, (hkind fault hfault).1⟩

end Sorted

end Transcode
