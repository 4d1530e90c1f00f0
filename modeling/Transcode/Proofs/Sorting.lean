import Mathlib.Data.List.Perm.Basic
import Transcode.Sorting

/-!
# What sorting by comparisons comes to

The answers of a comparison `IsConsistent` if they are those of an order where there are answers at
all. Then `sort` leaves the items of the list in an order in which no item is `less` than one before
it, and every two of them have been found comparable on the way; or it ends in the fault of a
comparison of two of the items.

Not all items are compared with one another. So what each part of the sorting keeps is `InOrder`,
which speaks of every two items of a run, and carries from the few comparisons that are made to the
others by transitivity.

## Main definitions

* `IsConsistent` — where there are answers, they are those of an order;
* `InOrder` — every two items have an answer, and none is `less` than one before it;
* `Yields` — a computation leaves something with a property, or has the fault of a comparison;
* `Holds` — some runs, each of them `InOrder`, hold the items of a list.

## Main results

* `yields_insert`, `yields_nextRun`, `yields_merge` — the parts of the sorting;
* `yields_sort` — the whole sorting.
-/

namespace Transcode.Sorting

variable {α ε β γ : Type} {less : α → α → Except ε Bool}

/-- Where `less` has answers, they are those of an order. -/
structure IsConsistent (less : α → α → Except ε Bool) : Prop where
  asymm {a b : α} : less a b = .ok true → less b a = .ok false
  trans {a b c : α} : less b a = .ok false → less c b = .ok false → less c a = .ok false

/-- No item is `less` than one before it, and every two can be compared. -/
def InOrder (less : α → α → Except ε Bool) (items : List α) : Prop :=
  items.Pairwise fun a b => less b a = .ok false

/-! ### Outcomes -/

/-- A computation on some items **yields** something with a property `P`, unless it ends in the
fault of a comparison of two of the items. -/
def Yields (less : α → α → Except ε Bool) (items : List α) (P : β → Prop) : Except ε β → Prop
  | .ok value => P value
  | .error fault => ∃ a ∈ items, ∃ b ∈ items, less a b = .error fault

section Yields

variable {items others : List α} {P : β → Prop} {Q : γ → Prop} {outcome : Except ε β}

theorem yields_pure {value : β} (h : P value) : Yields less items P (pure value : Except ε β) :=
  h

/-- What comes of a comparison is its answer. -/
theorem yields_less {a b : α} (ha : a ∈ items) (hb : b ∈ items) :
    Yields less items (fun answer => less a b = .ok answer) (less a b) := by
  cases hless : less a b with
  | error fault => exact ⟨a, ha, b, hb, hless⟩
  | ok answer => rfl

/-- `Yields` holds of one computation after another. -/
theorem Yields.bind {next : β → Except ε γ} (h : Yields less items P outcome)
    (hnext : ∀ value, P value → Yields less items Q (next value)) :
    Yields less items Q (outcome >>= next) := by
  cases outcome with
  | error fault => exact h
  | ok value => exact hnext value h

/-- What has a property may have another one for it. -/
theorem Yields.imp {R : β → Prop} (h : Yields less items P outcome) (himp : ∀ value, P value → R value) :
    Yields less items R outcome := by
  cases outcome with
  | error fault => exact h
  | ok value => exact himp value h

/-- A computation on some items is one on more items. -/
theorem Yields.of_subset (h : Yields less items P outcome) (hsubset : items ⊆ others) :
    Yields less others P outcome := by
  cases outcome with
  | error fault =>
      obtain ⟨a, ha, b, hb, hless⟩ := h
      exact ⟨a, hsubset ha, b, hsubset hb, hless⟩
  | ok value => exact h

end Yields

/-! ### Runs -/

section Runs

variable {items rest run : List α} {first before item : α} {falling : Bool}

/-- `InOrder` holds of items if it holds of any two next to each other. -/
theorem IsConsistent.inOrder_of_isChain (h : IsConsistent less)
    (hchain : items.IsChain fun a b => less b a = .ok false) : InOrder less items := by
  have : IsTrans α fun a b => less b a = .ok false := ⟨fun _ _ _ hab hbc => h.trans hab hbc⟩
  exact List.isChain_iff_pairwise.mp hchain

/-- Items that fall are in order when they have been turned around. -/
theorem IsConsistent.inOrder_reverse (h : IsConsistent less)
    (hchain : items.IsChain fun a b => less b a = .ok true) : InOrder less items.reverse := by
  have : IsTrans α fun a b => less a b = .ok false := ⟨fun _ _ _ hab hbc => h.trans hbc hab⟩
  rw [InOrder, List.pairwise_reverse, ← List.isChain_iff_pairwise]
  exact hchain.imp fun _ _ hless => h.asymm hless

/-- Items go on from one before them if each has the same answer as to whether it is `less` than the
one before it. -/
theorem yields_trend (falling : Bool) (before : α) (rest : List α) :
    Yields less (before :: rest)
      (fun more => more <+: rest ∧
        (before :: more).IsChain fun a b => less b a = .ok falling)
      (trend less falling before rest) := by
  induction rest generalizing before with
  | nil => exact yields_pure ⟨List.nil_prefix, .singleton before⟩
  | cons item rest ih =>
      rw [trend]
      refine (yields_less (by simp) (by simp)).bind fun answer hanswer => ?_
      split
      next hfalling =>
        subst hfalling
        refine ((ih item).of_subset (List.subset_cons_self before _)).bind fun more hmore => ?_
        exact yields_pure ⟨List.cons_prefix_cons.mpr ⟨rfl, hmore.1⟩, .cons_cons hanswer hmore.2⟩
      next => exact yields_pure ⟨List.nil_prefix, .singleton before⟩

/-- A run that the items begin with: its items are the first of them, in order. -/
structure IsRunOf (less : α → α → Except ε Bool) (first : α) (rest run : List α) : Prop where
  ne_nil : run ≠ []
  perm : (run ++ rest.drop (run.length - 1)).Perm (first :: rest)
  inOrder : InOrder less run

/-- `firstRun` that rises is in order, and one that falls is so when it has been turned around. -/
theorem yields_firstRun (h : IsConsistent less) (first : α) (rest : List α) :
    Yields less (first :: rest) (IsRunOf less first rest) (firstRun less first rest) := by
  cases rest with
  | nil => exact yields_pure ⟨List.cons_ne_nil first [], .refl _, List.pairwise_singleton _ first⟩
  | cons second rest =>
      rw [firstRun]
      refine (yields_less (by simp) (by simp)).bind fun falling hfalling => ?_
      refine ((yields_trend falling second rest).of_subset
        (List.subset_cons_self first _)).bind fun more hmore => ?_
      obtain ⟨hfront, hchain⟩ := hmore
      have hrun : (first :: second :: more).IsChain fun a b => less b a = .ok falling :=
        .cons_cons hfalling hchain
      have hperm : (first :: second :: more ++ rest.drop more.length).Perm
          (first :: second :: rest) := by
        rw [List.cons_append, List.cons_append, ← List.prefix_iff_eq_append.mp hfront]
        simp
      refine yields_pure ?_
      cases falling with
      | false =>
          exact ⟨List.cons_ne_nil first _, hperm, h.inOrder_of_isChain hrun⟩
      | true =>
          refine ⟨by simp, ?_, h.inOrder_reverse hrun⟩
          rw [if_pos rfl, List.length_reverse]
          exact ((List.reverse_perm _).append_right _).trans hperm

/-- `InOrder` holds of items if it holds of those on either side, and no item of the second side is
`less` than one of the first. -/
theorem inOrder_append {front back : List α} (hfront : InOrder less front)
    (hback : InOrder less back) (hboth : ∀ a ∈ front, ∀ b ∈ back, less b a = .ok false) :
    InOrder less (front ++ back) :=
  List.pairwise_append.mpr ⟨hfront, hback, hboth⟩

/-- **`insert` finds the place of an item**: behind all items that it is not `less` than, and before
all that it is. -/
theorem yields_insert (h : IsConsistent less) (item : α) (run : List α) (hrun : InOrder less run) :
    Yields less (item :: run)
      (fun longer => longer.Perm (item :: run) ∧ InOrder less longer) (insert less item run) := by
  fun_induction insert less item run with
  | case1 run hnil =>
      have : run = [] := by
        have hlength := congrArg List.length hnil
        rw [List.length_drop, List.length_nil] at hlength
        exact List.eq_nil_of_length_eq_zero (by omega)
      subst this
      exact yields_pure ⟨.refl _, List.pairwise_singleton _ item⟩
  | case2 run middle back hdrop front ihfront ihback =>
      have hsplit : run = front ++ middle :: back := by
        rw [← hdrop, List.take_append_drop]
      clear_value front
      subst hsplit
      obtain ⟨hfront, hmiddle, hboth⟩ := List.pairwise_append.mp hrun
      obtain ⟨hbehind, hback⟩ := List.pairwise_cons.mp hmiddle
      refine (yields_less (by simp) (by simp)).bind fun answer hanswer => ?_
      cases answer with
      | true =>
          refine ((ihfront hfront).of_subset (by simp)).bind fun longer hlonger => ?_
          obtain ⟨hperm, horder⟩ := hlonger
          refine yields_pure ⟨hperm.append_right _, inOrder_append horder hmiddle ?_⟩
          -- what is less than the middle is less than what is behind it
          have hitem : ∀ b ∈ middle :: back, less b item = .ok false :=
            List.forall_mem_cons.mpr
              ⟨h.asymm hanswer, fun b hb => h.trans (h.asymm hanswer) (hbehind b hb)⟩
          intro a ha b hb
          obtain rfl | ha := List.mem_cons.mp (hperm.subset ha)
          · exact hitem b hb
          · exact hboth a ha b hb
      | false =>
          refine ((ihback hback).of_subset (by grind)).bind fun longer hlonger => ?_
          obtain ⟨hperm, horder⟩ := hlonger
          have hlast : ∀ b ∈ longer, less b middle = .ok false := by
            intro b hb
            obtain rfl | hb := List.mem_cons.mp (hperm.subset hb)
            · exact hanswer
            · exact hbehind b hb
          refine yields_pure ⟨?_, inOrder_append hfront (List.pairwise_cons.mpr ⟨hlast, horder⟩) ?_⟩
          · have hlift : (front ++ middle :: item :: back).Perm (item :: (front ++ middle :: back)) := by
              simpa using @List.perm_middle _ item (front ++ [middle]) back
            exact ((hperm.cons middle).append_left front).trans hlift
          · intro a ha
            have hmiddle : less middle a = .ok false := hboth a ha middle List.mem_cons_self
            exact List.forall_mem_cons.mpr ⟨hmiddle, fun b hb => h.trans hmiddle (hlast b hb)⟩

/-- Items are inserted one after another. -/
theorem yields_insert_all (h : IsConsistent less) (items run : List α) (hrun : InOrder less run) :
    Yields less (run ++ items) (fun longer => longer.Perm (run ++ items) ∧ InOrder less longer)
      (items.foldlM (fun run item => insert less item run) run) := by
  induction items generalizing run with
  | nil => exact yields_pure ⟨by simp, hrun⟩
  | cons item rest ih =>
      rw [List.foldlM_cons]
      refine ((yields_insert h item run hrun).of_subset (by grind)).bind fun longer hlonger => ?_
      obtain ⟨hperm, horder⟩ := hlonger
      have hall : (longer ++ rest).Perm (run ++ item :: rest) :=
        (hperm.append_right rest).trans List.perm_middle.symm
      refine ((ih longer horder).of_subset hall.subset).imp fun last hlast => ?_
      exact ⟨hlast.1.trans hall, hlast.2⟩

/-- **`nextRun` of a list**, found and filled up, is in order. -/
theorem yields_nextRun (h : IsConsistent less) (least : Nat) (first : α) (rest : List α) :
    Yields less (first :: rest) (IsRunOf less first rest) (nextRun less least first rest) := by
  rw [nextRun]
  refine (yields_firstRun h first rest).bind fun run hrun => ?_
  obtain ⟨hne, hperm, horder⟩ := hrun
  dsimp only
  -- what is behind the run, up to the least length
  generalize hfilled : (rest.drop (run.length - 1)).take (least - run.length) = filled
  have hfront : filled <+: rest.drop (run.length - 1) := hfilled ▸ List.take_prefix _ _
  have hsplit := List.prefix_iff_eq_append.mp hfront
  have hsubset : run ++ filled ⊆ first :: rest := fun a ha =>
    hperm.subset ((hfront.sublist.append_left run).subset ha)
  refine ((yields_insert_all h filled run horder).of_subset hsubset).imp fun longer hlonger => ?_
  have hpos : 0 < run.length := List.length_pos_iff.mpr hne
  have hlength : longer.length = run.length + filled.length := by
    rw [hlonger.1.length_eq, List.length_append]
  refine ⟨List.length_pos_iff.mp (by omega), ?_, hlonger.2⟩
  have hbehind : rest.drop (longer.length - 1) =
      (rest.drop (run.length - 1)).drop filled.length := by
    rw [List.drop_drop, hlength]
    congr 1
    omega
  calc (longer ++ rest.drop (longer.length - 1)).Perm
        (run ++ filled ++ rest.drop (longer.length - 1)) := hlonger.1.append_right _
    _ = run ++ rest.drop (run.length - 1) := by rw [hbehind, List.append_assoc, hsplit]
    (run ++ rest.drop (run.length - 1)).Perm (first :: rest) := hperm

end Runs

/-! ### Merging -/

/-- **`merge` makes one run of two.** -/
theorem yields_merge (h : IsConsistent less) (a b : List α) (ha : InOrder less a)
    (hb : InOrder less b) :
    Yields less (a ++ b) (fun both => both.Perm (a ++ b) ∧ InOrder less both) (merge less a b) := by
  fun_induction merge less a b with
  | case1 b => exact yields_pure ⟨.refl _, hb⟩
  | case2 a => exact yields_pure ⟨by simp, ha⟩
  | case3 x a y b ihsecond ihfirst =>
      have hxs := List.pairwise_cons.mp ha
      have hys := List.pairwise_cons.mp hb
      refine (yields_less (by simp) (by simp)).bind fun answer hanswer => ?_
      cases answer with
      | true =>
          refine ((ihsecond ha hys.2).of_subset (by grind)).bind fun both hboth => ?_
          obtain ⟨hperm, horder⟩ := hboth
          refine yields_pure ⟨?_, List.pairwise_cons.mpr ⟨fun c hc => ?_, horder⟩⟩
          · exact (hperm.cons y).trans List.perm_middle.symm
          · have hx := h.asymm hanswer
            obtain hc | hc := List.mem_append.mp (hperm.subset hc)
            · obtain rfl | hc := List.mem_cons.mp hc
              · exact hx
              · exact h.trans hx (hxs.1 c hc)
            · exact hys.1 c hc
      | false =>
          refine ((ihfirst hxs.2 hb).of_subset (by simp)).bind fun both hboth => ?_
          obtain ⟨hperm, horder⟩ := hboth
          refine yields_pure ⟨hperm.cons x, List.pairwise_cons.mpr ⟨fun c hc => ?_, horder⟩⟩
          obtain hc | hc := List.mem_append.mp (hperm.subset hc)
          · exact hxs.1 c hc
          · obtain rfl | hc := List.mem_cons.mp hc
            · exact hanswer
            · exact h.trans hanswer (hys.1 c hc)

/-- Some runs hold the items of a list: each of them is in order. -/
structure Holds (less : α → α → Except ε Bool) (items : List α) (runs : List (Run α)) : Prop where
  perm : (runs.flatMap Run.items).Perm items
  inOrder : ∀ run ∈ runs, InOrder less run.items

section Stack

variable {items : List α} {runs others : List (Run α)} {a b last run : Run α}

/-- It does not matter which run comes first. -/
theorem Holds.of_perm (h : Holds less items runs) (hperm : runs.Perm others) :
    Holds less items others :=
  ⟨(hperm.flatMap_right Run.items).symm.trans h.perm,
    fun run hrun => h.inOrder run (hperm.mem_iff.mpr hrun)⟩

/-- Two of the runs are merged. -/
theorem Holds.yields_merge (hless : IsConsistent less) (h : Holds less items (b :: a :: others)) :
    Yields less items (fun run => Holds less items (run :: others)) (a.merge less b) := by
  obtain ⟨hb, ha, hothers⟩ := List.forall_mem_cons.mp h.inOrder |>.imp_right List.forall_mem_cons.mp
  have hperm : (a.items ++ b.items ++ others.flatMap Run.items).Perm items := by
    refine (List.perm_append_comm.append_right _).trans ?_
    simpa using h.perm
  have hsubset : a.items ++ b.items ⊆ items := fun item hitem =>
    hperm.subset (List.mem_append_left _ hitem)
  refine ((Sorting.yields_merge hless _ _ ha hb).of_subset hsubset).bind fun both hboth => ?_
  refine yields_pure ⟨?_, List.forall_mem_cons.mpr ⟨hboth.2, hothers⟩⟩
  exact (hboth.1.append_right _).trans hperm

/-- The last run is merged with some of those before it. -/
theorem Holds.yields_mergeAbove (hless : IsConsistent less) (least : Nat)
    {before : List (Nat × Run α)} (h : Holds less items (last :: before.map Prod.snd)) :
    Yields less items (fun left => Holds less items (left.1 :: left.2.map Prod.snd))
      (mergeAbove less least last before) := by
  induction before generalizing last with
  | nil => exact yields_pure h
  | cons entry before ih =>
      obtain ⟨power, run⟩ := entry
      rw [mergeAbove]
      split
      next => exact (h.yields_merge hless).bind fun merged hmerged => ih hmerged
      next => exact yields_pure h

/-- **`mergeAll` makes one run of all.** -/
theorem Holds.yields_mergeAll (hless : IsConsistent less) {before : List (Run α)}
    (h : Holds less items (last :: before)) :
    Yields less items (fun run => Holds less items [run]) (mergeAll less last before) := by
  fun_induction mergeAll less last before with
  | case1 last => exact yields_pure h
  | case2 last run => exact h.yields_merge hless
  | case3 last run earlier before _ ih =>
      -- the two runs before the last one are merged
      have hfirst := (h.of_perm (.trans (.swap ..) (.cons _ (.swap ..)))).yields_merge hless
      exact hfirst.bind fun merged hmerged => ih merged (hmerged.of_perm (.swap ..))
  | case4 last run earlier before _ ih =>
      exact (h.yields_merge hless).bind fun merged hmerged => ih merged hmerged

/-- One more run is found. -/
theorem Holds.cons {found : List α} (h : Holds less items runs) (horder : InOrder less found)
    (start : Nat) : Holds less (items ++ found) (⟨start, found⟩ :: runs) :=
  ⟨List.perm_append_comm.trans (h.perm.append_right found),
    List.forall_mem_cons.mpr ⟨horder, h.inOrder⟩⟩

/-- **`sweep` sorts the items that are left** with those of the runs that have been found, by
induction on the items that are left. -/
theorem Holds.yields_sweep (hless : IsConsistent less) (total : Nat) {before : List (Nat × Run α)}
    (h : Holds less items (last :: before.map Prod.snd)) (rest : List α) :
    Yields less (items ++ rest)
      (fun run => run.items.Perm (items ++ rest) ∧ InOrder less run.items)
      (sweep less total last before rest) := by
  fun_induction sweep less total last before rest generalizing items with
  | case1 last before =>
      rw [List.append_nil]
      refine (h.yields_mergeAll hless).imp fun run hrun => ?_
      exact ⟨by simpa using hrun.perm, hrun.inOrder run List.mem_cons_self⟩
  | case2 last before first rest ih =>
      have hfind := yields_nextRun hless (leastLength total) first rest
      refine (hfind.of_subset (List.subset_append_right _ _)).bind fun found hfound => ?_
      dsimp only
      refine ((h.yields_mergeAbove hless _).of_subset
        (List.subset_append_left _ _)).bind fun left hleft => ?_
      have hall : (items ++ found ++ rest.drop (found.length - 1)).Perm (items ++ first :: rest) := by
        rw [List.append_assoc]
        exact hfound.perm.append_left items
      have hnext := ih found left (hleft.cons hfound.inOrder last.stop)
      exact (hnext.of_subset hall.subset).imp fun run hrun => ⟨hrun.1.trans hall, hrun.2⟩

end Stack

/-- **`sort` puts all items in order** as soon as all comparisons have answers, and otherwise has
the fault of one of them. -/
theorem yields_sort (hless : IsConsistent less) (items : List α) :
    Yields less items (fun sorted => sorted.Perm items ∧ InOrder less sorted) (sort less items) := by
  cases items with
  | nil => exact yields_pure ⟨.refl _, List.Pairwise.nil⟩
  | cons first rest =>
      rw [sort]
      refine (yields_nextRun hless _ first rest).bind fun found hfound => ?_
      have hall := hfound.perm
      have hholds : Holds less found (⟨0, found⟩ :: ([] : List (Nat × Run α)).map Prod.snd) :=
        ⟨by simp, by simpa using hfound.inOrder⟩
      have hsweep := hholds.yields_sweep hless (rest.length + 1) (rest.drop (found.length - 1))
      refine (hsweep.of_subset hall.subset).bind fun run hrun => ?_
      exact yields_pure ⟨hrun.1.trans hall, hrun.2⟩

end Transcode.Sorting
