import Transcode.Proofs.Value.Grammar

/-!
# The reader and the grammar

The reader takes exactly what the grammar allows. What is spelled is read, if what stands behind it
does not go on with a number; this is by induction on the depth, and for a list or an object on its
parts, whose fuel is twice the length of the text. What is read is spelled; this is by induction on
the fuel, for values, items and members at once.

## Main results

* `isRead` — every value that is spelled is read;
* `isSpelled` — whatever is read is spelled;
* `read_eq_object_iff` — the objects that are read, with the last of the members of each name.
-/

namespace Transcode.Value

variable {cs rest next : List Char} {v : Value}

/-! ### What is spelled is read -/

/-- `readText` reads what `SpellsSigns` spells, with its halves joined. -/
theorem SpellsSigns.readsAs {signs : Text} (h : SpellsSigns cs signs rest) :
    ReadsAs readText cs (joinHalves signs) rest :=
  fun start => exists_readSigns_of_spells h start (start + 1)

theorem SpellsScalar.readsAs (h : SpellsScalar cs v rest) (hrest : EndsNumber rest)
    (fuel depth : Nat) : ReadsAs (readValue (fuel + 1) depth) cs v rest := by
  intro i
  cases h with
  | number n hn =>
      obtain ⟨j, hj⟩ := exists_readNumber_chars n hn hrest i
      obtain ⟨d, more, hd, hchars⟩ := n.exists_chars
      refine ⟨j, ?_⟩
      rw [← hj, hchars]
      cases n.negative with
      | true => exact readValue_of_minus hd fuel depth i _
      | false => exact readValue_of_digit hd fuel depth i _
  | text hsigns =>
      obtain ⟨j, hj⟩ := hsigns.readsAs i
      exact ⟨j, by rw [readValue, hj]⟩
  | _ => exact ⟨_, by rw [readValue]⟩

/-- `readValue` reads every value that `Spells` a depth, with fuel for the length of the text. -/
def IsRead (depth : Nat) : Prop :=
  ∀ {cs v rest fuel}, Spells depth cs v rest → EndsNumber rest → 2 * cs.length ≤ fuel →
    ReadsAs (readValue fuel depth) cs v rest

section Parts

variable {depth fuel : Nat}

/-- Blanks in front of what is not `outside` are skipped. -/
theorem BlanksTo.skipsTo_start {c : Char} {more : List Char} (h : BlanksTo cs next)
    (hnext : next = c :: more) (hc : c ∉ outside) : SkipsTo cs next := by
  subst hnext
  exact h.skipsTo_cons fun hmem => hc (List.mem_append_left _ hmem)

theorem SpellsSome.readsAs_items {items : List Value} (hread : IsRead depth)
    (h : SpellsSome (Spells depth) ']' cs items rest) (hfuel : 2 * cs.length < fuel) :
    ReadsAs (readItems fuel depth) cs items rest := by
  induction h generalizing fuel with
  | last hitem hclose =>
      obtain ⟨fuel, rfl⟩ : ∃ n, fuel = n + 1 := ⟨fuel - 1, by omega⟩
      exact readsAs_items_last (hread hitem (hclose.endsNumber_cons (by decide)) (by omega))
        (hclose.skipsTo_cons (by decide))
  | comma hitem hcomma hblanks hmore ih =>
      obtain ⟨fuel, rfl⟩ : ∃ n, fuel = n + 1 := ⟨fuel - 1, by omega⟩
      have := isShorter_spells depth _ _ _ hitem
      have := hcomma.length_le
      have := hblanks.length_le
      rw [List.length_cons] at *
      obtain ⟨c, more, hstart, hc⟩ := hmore.exists_cons (beginsInside_spells depth)
      exact readsAs_items_comma (hread hitem (hcomma.endsNumber_cons (by decide)) (by omega))
        (hcomma.skipsTo_cons (by decide)) (hblanks.skipsTo_start hstart hc) (ih (by omega))

/-- A member is read up to where its value begins. -/
theorem SpellsMember.exists_start {entry : Text × Value}
    (h : SpellsMember (Spells depth) cs entry rest) :
    ∃ text colon behind start, cs = '"' :: text ∧ ReadsAs readText text entry.1 colon ∧
      SkipsTo colon (':' :: behind) ∧ SkipsTo behind start ∧
      Spells depth start entry.2 rest ∧ start.length < cs.length := by
  obtain ⟨hname, hcolon, hblanks, hvalue⟩ := h
  obtain ⟨c, more, hstart, hc⟩ := beginsInside_spells depth _ _ _ hvalue
  refine ⟨_, _, _, _, rfl, hname.readsAs, hcolon.skipsTo_cons (by decide),
    hblanks.skipsTo_start hstart hc, hvalue, ?_⟩
  have := hname.length_lt
  have := hcolon.length_le
  have := hblanks.length_le
  rw [List.length_cons] at *
  omega

theorem SpellsSome.readsAs_entries {members : List (Text × Value)} (hread : IsRead depth)
    (h : SpellsSome (SpellsMember (Spells depth)) '\x7d' cs members rest)
    (hfuel : 2 * cs.length < fuel) : ReadsAs (readEntries fuel depth) cs members rest := by
  induction h generalizing fuel with
  | last hmember hclose =>
      obtain ⟨fuel, rfl⟩ : ∃ n, fuel = n + 1 := ⟨fuel - 1, by omega⟩
      obtain ⟨text, colon, behind, start, rfl, hname, hcolon, hstart, hvalue, _⟩ :=
        hmember.exists_start
      exact readsAs_entries_last hname hcolon hstart
        (hread hvalue (hclose.endsNumber_cons (by decide)) (by omega))
        (hclose.skipsTo_cons (by decide))
  | comma hmember hcomma hblanks hmore ih =>
      obtain ⟨fuel, rfl⟩ : ∃ n, fuel = n + 1 := ⟨fuel - 1, by omega⟩
      have := isShorter_member (isShorter_spells depth) _ _ _ hmember
      have := hcomma.length_le
      have := hblanks.length_le
      obtain ⟨text, colon, behind, start, rfl, hname, hcolon, hstart, hvalue, _⟩ :=
        hmember.exists_start
      obtain ⟨c, more, hnext, hc⟩ := hmore.exists_cons beginsInside_member
      rw [List.length_cons] at *
      exact readsAs_entries_comma hname hcolon hstart
        (hread hvalue (hcomma.endsNumber_cons (by decide)) (by omega))
        (hcomma.skipsTo_cons (by decide)) (hblanks.skipsTo_start hnext hc) (ih (by omega))

end Parts

/-- What begins neither with a blank nor with a closing sign is not closed at once. -/
theorem ne_close_of_start {c close : Char} {more : List Char} (hnext : next = c :: more)
    (hc : c ∉ outside) (hclose : close ∈ outside) (behind : List Char) :
    next ≠ close :: behind := by
  rintro rfl
  exact hc ((List.cons.inj hnext).1 ▸ hclose)

/-- **A value that is spelled is read**, by induction on its depth: `readValue` gives whatever
`Spells` says of the text. -/
theorem isRead (depth : Nat) : IsRead depth := by
  induction depth with
  | zero =>
      intro cs v rest fuel h hrest hfuel
      obtain ⟨fuel, rfl⟩ := exists_fuel h hfuel
      exact SpellsScalar.readsAs h hrest fuel 0
  | succ depth ih =>
      intro cs v rest fuel h hrest hfuel
      obtain ⟨fuel, rfl⟩ := exists_fuel h hfuel
      cases h with
      | scalar h => exact h.readsAs hrest fuel _
      | list h =>
          cases h with
          | none hclose => exact readsAs_list_nil (hclose.skipsTo_cons (by decide))
          | some hblanks hsome =>
              obtain ⟨c, more, hstart, hc⟩ := hsome.exists_cons (beginsInside_spells depth)
              have := hblanks.length_le
              rw [List.length_cons] at hfuel
              exact readsAs_list (hblanks.skipsTo_start hstart hc)
                (ne_close_of_start hstart hc (by decide)) (hsome.readsAs_items ih (by omega))
      | object h =>
          cases h with
          | none hclose => exact readsAs_object_nil (hclose.skipsTo_cons (by decide))
          | some hblanks hsome =>
              obtain ⟨c, more, hstart, hc⟩ := hsome.exists_cons beginsInside_member
              have := hblanks.length_le
              rw [List.length_cons] at hfuel
              exact readsAs_object (hblanks.skipsTo_start hstart hc)
                (ne_close_of_start hstart hc (by decide)) (hsome.readsAs_entries ih (by omega))

/-! ### What is read is spelled -/

/-- Whatever is read with the given fuel is spelled: a value by `Spells`, and items and entries by
`SpellsSome`. -/
structure IsSpelled (fuel : Nat) : Prop where
  value {depth i j : Nat} {cs rest : List Char} {v : Value}
    (h : readValue fuel depth i cs = .ok (v, j, rest)) : Spells depth cs v rest
  items {depth i j : Nat} {cs rest : List Char} {items : List Value}
    (h : readItems fuel depth i cs = .ok (items, j, rest)) :
    SpellsSome (Spells depth) ']' cs items rest
  entries {depth i j : Nat} {cs rest : List Char} {members : List (Text × Value)}
    (h : readEntries fuel depth i cs = .ok (members, j, rest)) :
    SpellsSome (SpellsMember (Spells depth)) '\x7d' cs members rest

section Steps

variable {fuel depth i j : Nat}

/-- `SpellsSome` from one step of `readItems`. -/
theorem IsSpelled.items_succ (hfuel : IsSpelled fuel) {items : List Value}
    (h : readItems (fuel + 1) depth i cs = .ok (items, j, rest)) :
    SpellsSome (Spells depth) ']' cs items rest := by
  rw [readItems] at h
  split at h
  next => cases h
  next hitem =>
    have hitem := hfuel.value hitem
    split at h
    next hclose =>
      cases h
      exact .last hitem (blanksTo_of_skipBlanks hclose)
    next hcomma =>
      dsimp only at h
      split at h
      next hitems =>
        cases h
        exact .comma hitem (blanksTo_of_skipBlanks hcomma) (blanksTo_of_skipBlanks rfl)
          (hfuel.items hitems)
      next => cases h
    next => cases h

/-- `SpellsSome` of members from one step of `readEntries`: a name, a colon and a value. -/
theorem IsSpelled.entries_succ (hfuel : IsSpelled fuel) {members : List (Text × Value)}
    (h : readEntries (fuel + 1) depth i cs = .ok (members, j, rest)) :
    SpellsSome (SpellsMember (Spells depth)) '\x7d' cs members rest := by
  unfold readEntries at h
  split at h
  next =>
    split at h
    next => cases h
    next hname =>
      obtain ⟨signs, hsigns, rfl⟩ := exists_spells_of_readSigns hname
      split at h
      next hcolon =>
        dsimp only at h
        split at h
        next => cases h
        next hvalue =>
          have hmember := SpellsMember.member hsigns (blanksTo_of_skipBlanks hcolon)
            (blanksTo_of_skipBlanks rfl) (hfuel.value hvalue)
          split at h
          next hclose =>
            cases h
            exact .last hmember (blanksTo_of_skipBlanks hclose)
          next hcomma =>
            split at h
            next hentries =>
              cases h
              exact .comma hmember (blanksTo_of_skipBlanks hcomma) (blanksTo_of_skipBlanks rfl)
                (hfuel.entries hentries)
            next => cases h
          next => cases h
      next => cases h
  next => cases h

/-- `Spells` from one step of `readValue`, for a number, a text, a list or an object. -/
theorem IsSpelled.value_succ (hfuel : IsSpelled fuel)
    (h : readValue (fuel + 1) depth i cs = .ok (v, j, rest)) : Spells depth cs v rest := by
  unfold readValue at h
  split at h
  case h_1 =>
    split at h
    next hname =>
      cases h
      obtain ⟨signs, hsigns, rfl⟩ := exists_spells_of_readSigns hname
      exact .of_scalar (.text hsigns) depth
    next => cases h
  case h_2 =>
    split at h
    next => cases h
    next depth =>
      split at h
      next hclose =>
        cases h
        exact .object (.none (blanksTo_of_skipBlanks hclose))
      next hblanks =>
        split at h
        next hentries =>
          cases h
          exact .object (.some (blanksTo_of_skipBlanks hblanks) (hfuel.entries hentries))
        next => cases h
  case h_3 =>
    split at h
    next => cases h
    next depth =>
      split at h
      next hclose =>
        cases h
        exact .list (.none (blanksTo_of_skipBlanks hclose))
      next hblanks =>
        split at h
        next hitems =>
          cases h
          exact .list (.some (blanksTo_of_skipBlanks hblanks) (hfuel.items hitems))
        next => cases h
  case h_10 =>
    obtain ⟨n, hn, rfl, rfl⟩ := exists_numeral_of_readNumber h
    exact .of_scalar (.number n hn) depth
  all_goals
    cases h
    refine .of_scalar ?_ depth
    constructor

end Steps

/-- **A value that is read is spelled**, and so are items and members, by induction on the fuel. -/
theorem isSpelled (fuel : Nat) : IsSpelled fuel := by
  induction fuel with
  | zero =>
      constructor
      · intro _ _ _ _ _ _ h
        rw [readValue] at h
        cases h
      · intro _ _ _ _ _ _ h
        rw [readItems] at h
        cases h
      · intro _ _ _ _ _ _ h
        rw [readEntries] at h
        cases h
  | succ fuel ih => exact ⟨ih.value_succ, ih.items_succ, ih.entries_succ⟩

/-! ### Whole texts -/

/-- What `readMembers` reads behind a brace is spelled by `SpellsParts`. -/
theorem spellsParts_of_readMembers {fuel depth i j : Nat} {members : List (Text × Value)}
    (h : readMembers fuel depth i cs = .ok (members, j, rest)) :
    SpellsParts (SpellsMember (Spells depth)) '\x7d' cs members rest := by
  unfold readMembers at h
  split at h
  next hclose =>
    cases h
    exact .none (blanksTo_of_skipBlanks hclose)
  next hblanks => exact .some (blanksTo_of_skipBlanks hblanks) ((isSpelled fuel).entries h)

/-- `read` and `readWhole` differ only in how they tell the place of a fault. -/
theorem read_eq_ok_iff {text : List Char} : read text = .ok v ↔ readWhole text = .ok v := by
  rw [read]
  cases readWhole text with
  | error fault => simp [Except.mapError]
  | ok value => simp [Except.mapError]

/-- **An object that is spelled is read**, with the last of the members of each name. -/
theorem SpellsObject.readWhole_eq {text : List Char} {members : List (Text × Value)}
    (h : SpellsObject text members) : readWhole text = .ok (.object (Entries.ofList members)) := by
  obtain ⟨cs, rest, hbefore, hparts, hafter⟩ := h
  have hspells : Spells (maxDepth - 1 + 1) ('\x7b' :: cs) (.object (Entries.ofList members)) rest :=
    SpellsNested.object hparts
  obtain ⟨i, hi⟩ := hbefore.skipsTo_cons (by decide) 0
  have hfuel : 2 * ('\x7b' :: cs).length ≤ 2 * text.length + 2 := by
    have := hbefore.length_le
    omega
  obtain ⟨j, hj⟩ := isRead _ hspells (hafter.endsNumber endsNumber_nil) hfuel i
  obtain ⟨k, hk⟩ := hafter.skipsTo (fun i => ⟨i, rfl⟩) j
  unfold readWhole
  split
  next => exact absurd rfl (hbefore.ne_cons (by decide) _)
  next =>
    rw [show maxDepth = maxDepth - 1 + 1 from rfl]
    simp only [hi, hj, hk]

/-- **An object that is read is spelled**, with the `members?` of the text. -/
theorem SpellsObject.of_members? {text : List Char} {members : List (Text × Value)}
    {entries : List (Text × Value)} (hread : readWhole text = .ok (.object entries))
    (hmembers : members? text = some members) : SpellsObject text members := by
  obtain ⟨i, start, hskip⟩ : ∃ i start, skipBlanks 0 text = (i, start) := ⟨_, _, rfl⟩
  unfold readWhole at hread
  split at hread
  next => cases hread
  next =>
    rw [hskip] at hread
    dsimp only at hread
    split at hread
    next => cases hread
    next hvalue =>
      split at hread
      next hafter =>
        cases hread
        obtain ⟨cs, rfl⟩ := exists_eq_brace_of_readValue hvalue
        have hbefore := blanksTo_of_skipBlanks hskip
        rw [show maxDepth = maxDepth - 1 + 1 from rfl, readValue_brace] at hvalue
        split at hvalue
        next hparts =>
          cases hvalue
          simp only [members?, hskip, hparts] at hmembers
          cases hmembers
          exact ⟨cs, _, hbefore, spellsParts_of_readMembers hparts, blanksTo_of_skipBlanks hafter⟩
        next => cases hvalue
      next => cases hread

/-- **A text is read as an object exactly if it spells one**: `SpellsObject` is the language of
`read`, and of several members with one name the last one counts. -/
theorem read_eq_object_iff {text : List Char} {entries : List (Text × Value)} :
    read text = .ok (.object entries) ↔
      ∃ members, SpellsObject text members ∧ entries = Entries.ofList members := by
  rw [read_eq_ok_iff]
  constructor
  · intro h
    obtain ⟨members, hmembers, hentries⟩ := members?_of_readWhole h
    exact ⟨members, .of_members? h hmembers, hentries⟩
  · rintro ⟨members, h, rfl⟩
    exact h.readWhole_eq

end Transcode.Value
