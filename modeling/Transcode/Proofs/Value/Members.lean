import Transcode.Config.Document
import Transcode.Proofs.Entries.Repeated

/-!
# Objects as they are written

The text of an object gives its entries one after another, and may give several with one name. The
object that is read from it has one entry for each name, with the value that was given last. Here
the entries are taken as they are written, and the object is told by them.

## Main definitions

* `Value.readMembers` — the entries behind an opening brace;
* `Value.members?` — the entries of the object that a whole text spells.

## Main results

* `readValue_brace` — an object is read from its entries;
* `members?_of_read` — the object of a text has the entries of the text, the last of each name.
-/

namespace Transcode.Value

open Text (Position)

/-- The entries of an object behind its opening brace, as they are written one after another: what
`readValue` has of them before `Entries.ofList` keeps the last of each name. -/
def readMembers (fuel depth i : Nat) (cs : List Char) : Piece (List (Text × Value)) :=
  match skipBlanks (i + 1) cs with
  | (i, '}' :: rest) => .ok ([], i + 1, rest)
  | (i, rest) => readEntries fuel depth i rest

/-- The entries of the object that a text spells, as they are written one after another. -/
def members? (text : List Char) : Option (List (Text × Value)) :=
  match skipBlanks 0 text with
  | (i, '{' :: rest) =>
    match readMembers (2 * text.length + 1) (maxDepth - 1) i rest with
    | .ok (members, _, _) => some members
    | .error _ => none
  | _ => none

/-! ### Behind the brace -/

/-- `readMembers` gives no entries if the first sign closes the object. -/
theorem readMembers_of_close {fuel depth i j : Nat} {cs rest : List Char}
    (h : skipBlanks (i + 1) cs = (j, '}' :: rest)) :
    readMembers fuel depth i cs = .ok ([], j + 1, rest) := by
  simp only [readMembers, h]

/-- In any other case `readMembers` is `readEntries`. -/
theorem readMembers_of_ne {fuel depth i j : Nat} {cs rest : List Char}
    (h : skipBlanks (i + 1) cs = (j, rest)) (hne : ∀ more, rest = '}' :: more → False) :
    readMembers fuel depth i cs = readEntries fuel depth j rest := by
  rw [readMembers, h]
  split
  next heq => exact (hne _ (congrArg Prod.snd heq)).elim
  next heq =>
    cases heq
    rfl

/-- `readValue` at a brace is `readMembers`, with the last one of several entries with one name. -/
theorem readValue_brace (fuel depth i : Nat) (cs : List Char) :
    readValue (fuel + 1) (depth + 1) i ('{' :: cs) =
      match readMembers fuel depth i cs with
      | .ok (members, i, rest) => .ok (.object (Entries.ofList members), i, rest)
      | .error e => .error e := by
  rw [readValue]
  split
  next heq =>
    rw [readMembers_of_close heq]
    rfl
  next j rest hne heq =>
    have hmembers := (readMembers_of_ne heq hne : readMembers fuel depth i cs = _)
    cases hentries : readEntries fuel depth j rest with
    | ok found => rw [hmembers, hentries]
    | error fault => rw [hmembers, hentries]

/-! ### What is an object -/

/-- `readNumber` never gives an object. -/
theorem readNumber_ne_object {i j : Nat} {cs rest : List Char} {entries : List (Text × Value)} :
    readNumber i cs ≠ .ok (.object entries, j, rest) := by
  intro h
  unfold readNumber at h
  grind [fault]

/-- An object that `readValue` gives begins with a brace. -/
theorem exists_eq_brace_of_readValue {fuel depth i j : Nat} {cs rest : List Char}
    {entries : List (Text × Value)}
    (h : readValue fuel depth i cs = .ok (.object entries, j, rest)) :
    ∃ more, cs = '{' :: more := by
  cases fuel with
  | zero =>
      rw [readValue] at h
      cases h
  | succ fuel =>
      unfold readValue at h
      split at h
      case h_1 => split at h <;> cases h
      case h_2 more => exact ⟨more, rfl⟩
      case h_3 =>
        split at h
        · cases h
        · split at h
          · cases h
          · split at h <;> cases h
      case h_10 => exact absurd h readNumber_ne_object
      all_goals cases h

/-- **The object of a text** is `Entries.ofList` of the `members?` of that text: the last of the
entries with each name. -/
theorem members?_of_readWhole {text : List Char} {entries : List (Text × Value)}
    (h : readWhole text = .ok (.object entries)) :
    ∃ members, members? text = some members ∧ entries = Entries.ofList members := by
  unfold readWhole at h
  split at h
  · cases h
  · cases hskip : skipBlanks 0 text with
    | mk i rest =>
        rw [hskip] at h
        dsimp only at h
        split at h
        next => cases h
        next value j after hread =>
          obtain rfl : value = .object entries := by
            split at h
            · exact Except.ok.inj h
            · cases h
          obtain ⟨more, rfl⟩ := exists_eq_brace_of_readValue hread
          rw [show maxDepth = (maxDepth - 1) + 1 from rfl, readValue_brace] at hread
          split at hread
          next members _ _ hmembers =>
            cases hread
            refine ⟨members, ?_, rfl⟩
            simp only [members?, hskip, hmembers]
          next => cases hread

/-- The same for `read`, which tells places by lines. -/
theorem members?_of_read {text : List Char} {entries : List (Text × Value)}
    (h : read text = .ok (.object entries)) :
    ∃ members, members? text = some members ∧ entries = Entries.ofList members := by
  rw [read] at h
  cases hwhole : readWhole text with
  | error e =>
      rw [hwhole] at h
      cases h
  | ok value =>
      rw [hwhole] at h
      cases h
      exact members?_of_readWhole hwhole

end Transcode.Value
