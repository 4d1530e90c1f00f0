import Transcode.CommandLine.Options

/-!
# Values on a command line

Whatever a command line gives, each value among its options is a text, or null if it is not given,
or else the empty list that is left of two hyphens glued to their switch. Reading a command line is
switches taking effect one after another, so this and any other property that each switch keeps
holds of the options in the end.

## Main definitions

* `IsSwitchValue` — the values that switches can have;
* `Options.HasSwitchValues` — options with such values.

## Main results

* `Options.take_induction` — what switches keep holds in the end;
* `Options.hasSwitchValues_of_parse` — the values on any command line.
-/

namespace Transcode.CommandLine

/-- What a switch can have for a value: nothing, a text, or what is left of two hyphens. -/
def IsSwitchValue : Value → Prop
  | .null | .text _ | .list [] => True
  | _ => False

/-- The text of a value, or an empty one for want of any. -/
def textOf : Value → Text
  | .text t => t
  | _ => []

/-- A value with `IsSwitchValue` counts as not given exactly if it has no text. -/
theorem IsSwitchValue.isEmpty_iff {value : Value} (h : IsSwitchValue value) :
    value.isEmpty = true ↔ textOf value = [] := by
  match value, h with
  | .null, _ => simp [Value.isEmpty, textOf]
  | .text t, _ => simp [Value.isEmpty, textOf]
  | .list [], _ => simp [Value.isEmpty, textOf]

/-- A value with a text is that text. -/
theorem eq_text_of_textOf_ne_nil {value : Value} (h : textOf value ≠ []) :
    value = .text (textOf value) := by
  cases value with
  | text t => rfl
  | _ => exact absurd rfl h

namespace Options

/-- `valueOf` gives a value with `IsSwitchValue`. -/
theorem isSwitchValue_valueOf (argument : String) : IsSwitchValue (valueOf argument) := by
  rw [valueOf]
  split <;> trivial

/-! ### What switches keep -/

section Keeps

variable {P : Options → Prop} {o o' : Options}
  (hflag : ∀ o o' switch, P o → flag switch o = .ok o' → P o')

include hflag

/-- What `flag` of one switch keeps, `flags` of several keeps. -/
theorem flags_induction {switches : List Switch} (ho : P o) (h : o.flags switches = .ok o') :
    P o' := by
  induction switches generalizing o with
  | nil =>
      obtain rfl := Except.ok.inj h
      exact ho
  | cons switch rest ih =>
      rw [flags] at h
      split at h
      next => cases h
      next next hnext => exact ih (hflag _ _ _ ho hnext) h

/-- **What each switch keeps holds in the end.** The induction is along the recursion of `take`. -/
theorem take_induction
    (hassign : ∀ o o' switch argument, P o → assign switch argument o = .ok o' → P o')
    {extra : List String} {arguments : List (String × Argument)} (ho : P o)
    (h : o.take extra arguments = .ok o') : P o' := by
  fun_induction take o extra arguments
  case case1 =>
      obtain rfl := Except.ok.inj h
      exact ho
  case case6 hflags _ hvalue ih | case9 hflags _ hvalue ih =>
      exact ih (hassign _ _ _ _ (flags_induction hflag ho hflags) hvalue) h
  case case12 hflags ih => exact ih (flags_induction hflag ho hflags) h
  case case13 ih => exact ih ho h
  -- in all other cases the reading stops
  all_goals cases h

end Keeps

/-! ### Values -/

/-- Each value among the options is one that a switch can have. -/
structure HasSwitchValues (o : Options) : Prop where
  preset : IsSwitchValue o.preset
  input : IsSwitchValue o.input
  output : IsSwitchValue o.output
  config : IsSwitchValue o.config
  logLevel : IsSwitchValue o.logLevel

/-- `flag` leaves the values alone. -/
theorem HasSwitchValues.flag {o o' : Options} {switch : Switch} (h : o.HasSwitchValues)
    (hflag : o.flag switch = .ok o') : o'.HasSwitchValues := by
  cases switch with
  | help => cases hflag
  | listPresets =>
      obtain rfl := Except.ok.inj hflag
      exact { h with }
  | _ =>
      obtain rfl := Except.ok.inj hflag
      exact h

/-- `assign` gives a switch a value that it can have. -/
theorem HasSwitchValues.assign {o o' : Options} {switch : Switch} {argument : String}
    (h : o.HasSwitchValues) (hassign : o.assign switch argument = .ok o') : o'.HasSwitchValues := by
  have hvalue := isSwitchValue_valueOf argument
  cases switch with
  | logLevel =>
      rw [Options.assign] at hassign
      split at hassign
      · obtain rfl := Except.ok.inj hassign
        exact { h with logLevel := hvalue }
      · cases hassign
  | preset =>
      obtain rfl := Except.ok.inj hassign
      exact { h with preset := hvalue }
  | input =>
      obtain rfl := Except.ok.inj hassign
      exact { h with input := hvalue }
  | output =>
      obtain rfl := Except.ok.inj hassign
      exact { h with output := hvalue }
  | config =>
      obtain rfl := Except.ok.inj hassign
      exact { h with config := hvalue }
  | _ =>
      obtain rfl := Except.ok.inj hassign
      exact h

/-- **The values that `parse` finds** on any command line are values that switches can have. -/
theorem hasSwitchValues_of_parse {arguments : List String} {o : Options}
    (h : parse arguments = .ok o) : o.HasSwitchValues := by
  rw [parse] at h
  split at h
  next => cases h
  next classified _ =>
      have hstart : HasSwitchValues {} := ⟨trivial, trivial, trivial, trivial, trivial⟩
      exact take_induction (fun _ _ _ => HasSwitchValues.flag)
        (fun _ _ _ _ => HasSwitchValues.assign) hstart h

end Options

end Transcode.CommandLine
