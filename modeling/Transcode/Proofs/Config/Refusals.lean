import Transcode.Proofs.Config.Agreement

/-!
# What is wrong with a configuration file

A file that can be read gives a configuration its entries, or is at fault. Nearly every fault is in
what the file holds: its bytes are no text, its text spells no value, or its names are unknown. Two
kinds of documents are at fault in another way: those that are nested too deep to be read, and those
that are no object but pass the check of names all the same, since what they hold are names of
settings, or nothing at all.

## Main definitions

* `Document.spelled` — the value that a file spells, whatever its names are;
* `Document.IsMistaken` — a value that is no object and has no unknown names;
* `Document.SlipsThrough` — the documents whose fault is not in what they hold.

## Main results

* `spelled_write` — the file of a written value;
* `check_eq_ok_iff`, `isInvalidData_of_check` — the values that pass the check, and the others;
* `check_noObject_iff` — the values without entries that pass;
* `exists_entriesAt_eq_error_iff` — the faults of a file that can be read.
-/

namespace Transcode

/-- `find?` finds a setting under the name of one, and under no other. -/
theorem Setting.isSome_find?_iff {name : Text} :
    (find? name).isSome = true ↔ ∃ setting : Setting, name = .ofString setting.name := by
  rw [find?, List.find?_isSome]
  constructor
  · rintro ⟨setting, -, hname⟩
    exact ⟨setting, (beq_iff_eq.mp hname).symm⟩
  · rintro ⟨setting, rfl⟩
    exact ⟨setting, by cases setting <;> decide, beq_self_eq_true _⟩

namespace Document

/-! ### The value of a document -/

/-- The value that the bytes of a file spell. -/
def spelled (bytes : List UInt8) : Except Fault Value :=
  match Text.Utf8.decode bytes with
  | .error fault => .error (.undecodable fault)
  | .ok text => (Value.read (Text.unifyLineEnds text)).mapError .malformed

/-- `ofBytes` is the `check` of the value that is `spelled`. -/
theorem ofBytes_eq (bytes : List UInt8) :
    ofBytes bytes =
      match spelled bytes with
      | .error fault => .error fault
      | .ok value => check value := by
  rw [ofBytes, spelled]
  cases Text.Utf8.decode bytes with
  | error fault => rfl
  | ok text =>
      dsimp only
      cases Value.read (Text.unifyLineEnds text) <;> rfl

/-- The bytes of a value that `Value.write` has written spell it. -/
theorem spelled_write {value : Value} (h : value.IsPlain Value.maxDepth) :
    spelled (Text.Utf8.encode value.write) = .ok value := by
  rw [spelled, Text.Utf8.decode_encode]
  dsimp only
  rw [h.unifyLineEnds_write, Value.read_write h]
  rfl

/-- What spells no value `isInvalidData`, unless it is nested too deep. -/
theorem isInvalidData_of_spelled {bytes : List UInt8} {fault : Fault}
    (h : spelled bytes = .error fault) :
    fault.kind.isInvalidData = false ↔ ∃ nest, fault = .malformed (.tooDeep nest) := by
  rw [spelled] at h
  split at h
  next =>
    cases h
    simp [Fault.kind, FaultKind.isInvalidData]
  next text _ =>
    cases hread : Value.read (Text.unifyLineEnds text) with
    | ok value =>
        rw [hread] at h
        cases h
    | error found =>
        rw [hread] at h
        cases h
        cases found <;> simp [Fault.kind, FaultKind.isInvalidData]

/-! ### The check of names -/

/-- `eraseDupsBy` leaves nothing only if there was nothing. -/
theorem eraseDupsBy_eq_nil_iff {α : Type} {r : α → α → Bool} {items : List α} :
    items.eraseDupsBy r = [] ↔ items = [] := by
  cases items with
  | nil => exact iff_of_true rfl rfl
  | cons first rest => simp [List.eraseDupsBy_cons]

/-- `refusal?` refuses any names at all, for what the file holds. -/
theorem exists_refusal?_cons (first : Value) (rest : List Value) :
    ∃ fault, refusal? (first :: rest) = some fault ∧ fault.kind.isInvalidData = true := by
  unfold refusal?
  dsimp only
  split
  · exact ⟨_, rfl, rfl⟩
  · split <;> exact ⟨_, rfl, rfl⟩

/-- `refusal?` refuses nothing only where there are no names. -/
theorem refusal?_eq_none_iff {unknown : List Value} : refusal? unknown = none ↔ unknown = [] := by
  cases unknown with
  | nil => exact iff_of_true rfl rfl
  | cons first rest =>
      obtain ⟨fault, hfault, -⟩ := exists_refusal?_cons first rest
      simp [hfault]

/-- A value passes the `check` if all that it holds are names of settings. -/
theorem check_eq_ok_iff {value : Value} :
    check value = .ok value ↔
      ∃ held, names value = .ok held ∧ ∀ name ∈ held, isKnown name = true := by
  rw [check]
  cases names value with
  | error fault => simp
  | ok held =>
      have hnone : refusal? ((held.filter fun name => !isKnown name).eraseDupsBy Value.same) =
          none ↔ ∀ name ∈ held, isKnown name = true := by
        rw [refusal?_eq_none_iff, eraseDupsBy_eq_nil_iff, List.filter_eq_nil_iff]
        simp
      dsimp only
      split
      next fault hfault =>
        rw [hfault] at hnone
        simpa using hnone
      next hfault => simpa using hnone.mp hfault

/-- What does not pass the `check` is at fault in what the file holds. -/
theorem isInvalidData_of_check {value : Value} {fault : Fault} (h : check value = .error fault) :
    fault.kind.isInvalidData = true := by
  rw [check] at h
  split at h
  next found hnames =>
    cases h
    cases value with
    | list items =>
        rw [names] at hnames
        split at hnames <;> cases hnames
        rfl
    | _ => cases hnames <;> rfl
  next held _ =>
    split at h
    next hrefusal =>
      cases h
      generalize (held.filter fun name => !isKnown name).eraseDupsBy Value.same = unknown at hrefusal
      cases unknown with
      | nil => cases hrefusal
      | cons first rest =>
          obtain ⟨found, hfound, hkind⟩ := exists_refusal?_cons first rest
          rw [hrefusal] at hfound
          cases hfound
          exact hkind
    next => cases h

/-- The value is no object, but there are no unknown names in it: it is a list of names of settings,
or a text without signs. -/
def IsMistaken : Value → Prop
  | .list items => ∀ item ∈ items, ∃ setting : Setting, item = .text (.ofString setting.name)
  | .text t => t = []
  | _ => False

/-- `isKnown` holds of the names of settings. -/
theorem isKnown_iff {name : Value} :
    isKnown name = true ↔ ∃ setting : Setting, name = .text (.ofString setting.name) := by
  cases name with
  | text t => simp [isKnown, Setting.isSome_find?_iff]
  | _ => simp [isKnown]

/-- No setting has a name of one sign. -/
theorem isKnown_singleton (sign : Sign) : isKnown (.text [sign]) = false := by
  rw [Bool.eq_false_iff, Ne, isKnown_iff]
  rintro ⟨setting, heq⟩
  have hlength := congrArg List.length (Value.text.inj heq)
  revert hlength
  cases setting <;> simp [Text.ofString, Setting.name]

/-- A value without entries passes the `check` only by mistake. -/
theorem check_noObject_iff {value : Value} (h : ∀ entries, value ≠ .object entries) :
    check value = .ok value ↔ IsMistaken value := by
  rw [check_eq_ok_iff]
  cases value with
  | object entries => exact absurd rfl (h entries)
  | text t =>
      cases t with
      | nil => simp [names, IsMistaken]
      | cons sign rest => simp [names, IsMistaken, isKnown_singleton]
  | list items =>
      have hcollection (hknown : ∀ item ∈ items, isKnown item = true) :
          items.find? isCollection = none := by
        rw [List.find?_eq_none]
        intro item hitem
        obtain ⟨setting, rfl⟩ := isKnown_iff.mp (hknown item hitem)
        exact Bool.false_ne_true
      simp only [IsMistaken, ← isKnown_iff, names]
      constructor
      · rintro ⟨held, hnames, hknown⟩
        split at hnames
        next => cases hnames
        next =>
          cases hnames
          exact hknown
      · intro hknown
        rw [hcollection hknown]
        exact ⟨items, rfl, hknown⟩
  | _ => simp [names, IsMistaken]

/-! ### The faults of a file -/

/-- The documents whose fault is not in what they hold: they are nested too deep, or no object and
without unknown names. -/
inductive SlipsThrough (bytes : List UInt8) : Prop where
  | tooDeep {nest : Value.Nest} (h : spelled bytes = .error (.malformed (.tooDeep nest)))
  | mistaken {value : Value} (h : spelled bytes = .ok value) (hvalue : IsMistaken value)

variable {files : Files} {path : Text} {bytes : List UInt8}

/-- A document that spells no value `SlipsThrough` if its fault is not in what it holds. -/
theorem slipsThrough_iff_of_error {fault : Fault} (h : spelled bytes = .error fault) :
    SlipsThrough bytes ↔ fault.kind.isInvalidData = false := by
  rw [isInvalidData_of_spelled h]
  constructor
  · rintro (@⟨nest, htooDeep⟩ | ⟨hvalue, -⟩)
    · exact ⟨nest, Except.error.inj (h.symm.trans htooDeep)⟩
    · cases h.symm.trans hvalue
  · rintro ⟨nest, rfl⟩
    exact .tooDeep h

/-- A document that spells a value `SlipsThrough` if the value `IsMistaken`. -/
theorem slipsThrough_iff_of_ok {value : Value} (h : spelled bytes = .ok value) :
    SlipsThrough bytes ↔ IsMistaken value := by
  constructor
  · rintro (⟨htooDeep⟩ | ⟨hfound, hvalue⟩)
    · cases h.symm.trans htooDeep
    · obtain rfl := Except.ok.inj (h.symm.trans hfound)
      exact hvalue
  · exact .mistaken h

/-- **The faults of a file that can be read** are in what it holds, unless the document
`SlipsThrough`. -/
theorem exists_entriesAt_eq_error_iff (h : files.read path = .ok bytes) :
    (∃ fault, entriesAt files (.text path) = .error fault ∧ fault.kind.isInvalidData = false) ↔
      SlipsThrough bytes := by
  rw [entriesAt_of_read h, ofBytes_eq]
  cases hspelled : spelled bytes with
  | error fault =>
      rw [slipsThrough_iff_of_error hspelled]
      simp
  | ok value =>
      rw [slipsThrough_iff_of_ok hspelled]
      dsimp only
      cases hcheck : check value with
      | error fault =>
          have hmistaken : ¬IsMistaken value := by
            intro hvalue
            have hnoObject : ∀ entries, value ≠ .object entries := by
              rintro entries rfl
              exact hvalue
            rw [(check_noObject_iff hnoObject).mpr hvalue] at hcheck
            cases hcheck
          simp [hmistaken, isInvalidData_of_check hcheck]
      | ok checked =>
          obtain rfl := eq_of_check hcheck
          cases checked with
          | object entries => simp [IsMistaken]
          | _ =>
              rw [check_noObject_iff (fun _ => Value.noConfusion)] at hcheck
              simp [hcheck, Fault.kind, FaultKind.isInvalidData]

end Document

end Transcode
