import Transcode.Proofs.Session.Presets

/-!
# Actions that end alike

Two actions end alike from two sessions that agree in something if they give the same result, or
stop with the same fault, and leave behind sessions that again agree in it. This is shown along the
form of the actions, as for properties of one session.

Answers are made of the settings of the encoder and the preset, and go to standard output. From
sessions that agree in these, reading, compiling and building a preset end alike, whatever the
loggers let through, and wherever they write it.

## Main definitions

* `Action.Alike` — two actions that end alike from sessions in a relation;
* `SameAnswers` — two sessions that agree in what answers are made of.

## Main results

* `Alike.bind`, `alike_get_bind`, `alike_each` — actions made of others;
* `alike_parse`, `alike_compile`, `alike_build` — presets, from sessions that agree.
-/

namespace Transcode

namespace Action

variable {α β : Type} {R : Session → Session → Prop}

/-- Two actions **end alike** from sessions in a relation: with the same result or fault, and with
sessions in that relation. -/
def Alike (R : Session → Session → Prop) (a b : Action α) : Prop :=
  ∀ s t, R s t → (a.on s).1 = (b.on t).1 ∧ R (a.on s).2 (b.on t).2

theorem alike_pure (x : α) : Alike R (pure x) (pure x) :=
  fun _ _ h => ⟨rfl, h⟩

theorem alike_throw (fault : Fault) : Alike R (throw fault : Action α) (throw fault) :=
  fun _ _ h => ⟨rfl, h⟩

theorem alike_ofExcept (e : Except Fault α) : Alike R (ofExcept e) (ofExcept e) := by
  intro s t h
  rw [on_ofExcept, on_ofExcept]
  exact ⟨rfl, h⟩

/-- Changes that keep the relation end `Alike`. -/
theorem alike_modify {f g : Session → Session} (h : ∀ s t, R s t → R (f s) (g t)) :
    Alike R (modify f : Action Unit) (modify g) :=
  fun s t hst => ⟨rfl, h s t hst⟩

/-- What is done with the sessions of `get` is done from these sessions. -/
theorem alike_get_bind {f g : Session → Action β}
    (h : ∀ s t, R s t → ((f s).on s).1 = ((g t).on t).1 ∧ R ((f s).on s).2 ((g t).on t).2) :
    Alike R (get >>= f) (get >>= g) :=
  h

/-- `Alike` actions, one after another. -/
theorem Alike.bind {a b : Action α} {f g : α → Action β} (hab : Alike R a b)
    (hfg : ∀ x, Alike R (f x) (g x)) : Alike R (a >>= f) (b >>= g) := by
  intro s t hst
  obtain ⟨hresult, hafter⟩ := hab s t hst
  cases hb : (b.on t).1 with
  | ok x =>
      rw [on_bind_of_ok (hresult.trans hb), on_bind_of_ok hb]
      exact hfg x _ _ hafter
  | error fault =>
      rw [on_bind_of_error (hresult.trans hb), on_bind_of_error hb]
      exact ⟨rfl, hafter⟩

/-- `attempt` leaves `Alike` actions alike. -/
theorem Alike.attempt {a b : Action α} (h : Alike R a b) : Alike R a.attempt b.attempt := by
  intro s t hst
  obtain ⟨hresult, hafter⟩ := h s t hst
  rw [on_attempt, on_attempt, hresult]
  exact ⟨rfl, hafter⟩

/-- `each` is `Alike` if its rounds are. -/
theorem alike_each {a b : β → Action Unit} (h : ∀ item, Alike R (a item) (b item))
    (items : List β) : Alike R (each items a) (each items b) := by
  induction items with
  | nil => exact alike_pure ()
  | cons item rest ih =>
      rw [each_cons, each_cons]
      exact (h item).bind fun _ => ih

end Action

namespace Session

open Transcode.Action (Alike Keeps alike_pure alike_throw alike_ofExcept alike_modify alike_get_bind)

/-! ### What answers are made of -/

/-- Two sessions agree in what answers are made of: the settings of the encoder and of the preset,
and what is on standard output. -/
structure SameAnswers (s t : Session) : Prop where
  program : s.config.get .program = t.config.get .program
  preset : s.config.get .preset = t.config.get .preset
  output : s.output = t.output

variable {s t s' t' : Session}

/-- `SameButLog` changes do not show in answers. -/
theorem SameAnswers.of_sameButLog (h : SameAnswers s t) (hs : SameButLog s s')
    (ht : SameButLog t t') : SameAnswers s' t' where
  program := by rw [hs.config, ht.config, h.program]
  preset := by rw [hs.config, ht.config, h.preset]
  output := by rw [hs.output, ht.output, h.output]

/-- A `note` shows in no answer, whether or not it is let through. -/
theorem alike_note (level : Nat) (logger message : Text) :
    Alike SameAnswers (note level logger message) (note level logger message) :=
  alike_modify fun _ _ h => h.of_sameButLog (sameButLog_log _ _) (sameButLog_log _ _)

/-! ### Presets -/

/-- `parse` does not look at the session. -/
theorem alike_parse (value : Value) : Alike SameAnswers (parse value) (parse value) := by
  cases value with
  | null => exact alike_pure _
  | text text =>
      rw [parse]
      split
      · exact alike_throw _
      · exact (alike_note _ _ _).bind fun _ => alike_pure _
  | _ => exact alike_throw _

/-- Nor does `compile`. -/
theorem alike_compile (p : Preset) : Alike SameAnswers (compile p) (compile p) := by
  rw [compile]
  split
  · exact alike_pure _
  · exact (alike_note _ _ _).bind fun _ => alike_pure _
  · exact alike_throw _

/-- `build` looks at `Setting.program`. -/
theorem alike_build (p : Preset) (input output program : Value) :
    Alike SameAnswers (build (.preset p) input output program)
      (build (.preset p) input output program) := by
  refine (alike_compile p).bind fun arguments => ?_
  refine alike_get_bind fun s t h => ?_
  rw [h.program]
  exact ⟨rfl, h⟩

end Session

end Transcode
