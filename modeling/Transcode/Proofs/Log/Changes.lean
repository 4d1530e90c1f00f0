import Mathlib.Logic.Relation
import Transcode.Log.Registry

/-!
# Changes of the loggers

Whatever a session does, its loggers change in five ways only: a logger is made, a decision is
remembered, a logger loses its handlers, one without handlers is attached, and the program's loggers
are set to a level. What every such change preserves holds of the loggers in every session.

Two changes to one logger in a row are one change, and forgetting the decisions may come last, so
attaching a logger is a single change of it, however many handlers it gets.

## Main definitions

* `Registry.find?` — the logger of a name, the root logger included, if there is one;
* `Registry.All` — a property of all loggers;
* `Registry.attach` — a logger with a level and handlers at that level;
* `Registry.Change`, `Registry.Reaches` — one change of the loggers, and several.

## Main results

* `update_update`, `update_forget` — changes to one logger in a row;
* `All.make`, `All.update`, `All.forget`, `All.setProgramLevel` — properties that are preserved.
-/

namespace Transcode.Log

/-- A logger with a level, and with more handlers at that level. -/
def Logger.attach (level : Nat) (sinks : List Sink) (logger : Logger) : Logger :=
  { logger with level, handlers := logger.handlers ++ sinks.map fun sink => ⟨sink, level⟩ }

namespace Registry

variable {r : Registry} {name : Text}

/-! ### One logger -/

/-- The logger of a name, if there is one. The root logger is always there. -/
def find? (r : Registry) (name : Text) : Option Logger :=
  if name = rootName then some r.root else r.made? name

/-- `Registry.logger` is the one that `find?` finds, or a bare one. -/
theorem logger_eq (r : Registry) (name : Text) : r.logger name = (r.find? name).getD {} := by
  rw [Registry.logger, find?]
  split <;> rfl

/-- `find?` sees an `update` of the same name. -/
theorem find?_update_self (r : Registry) (name : Text) (change : Logger → Logger) :
    (r.update name change).find? name = (r.find? name).map change := by
  by_cases hroot : name = rootName
  · simp [find?, update, hroot]
  · rw [find?, if_neg hroot, find?, if_neg hroot, update, if_neg hroot, made?, made?]
    cases h : Entries.get? name r.entries with
    | none => simp [h]
    | some node =>
        simp only [enter, Entries.get?_put_self]
        cases node <;> rfl

/-- Two `update`s of a logger in a row are one. -/
theorem update_update (r : Registry) (name : Text) (first second : Logger → Logger) :
    (r.update name first).update name second = r.update name (second ∘ first) := by
  by_cases hroot : name = rootName
  · simp [update, hroot]
  · cases h : Entries.get? name r.entries with
    | none => simp [update, hroot, h]
    | some node =>
        cases node <;>
          simp [update, hroot, h, enter, Entries.get?_put_self, Entries.put_put, Node.map]

/-- `forget` may come before an `update` of a logger or after it. -/
theorem update_forget (r : Registry) (name : Text) {change : Logger → Logger}
    (h : ∀ logger, change logger.forget = (change logger).forget) :
    r.forget.update name change = (r.update name change).forget := by
  have hentries : r.forget.entries = Entries.mapValues (Node.map Logger.forget) r.entries := rfl
  by_cases hroot : name = rootName
  · simp [update, hroot, forget, h]
  · rw [update, if_neg hroot, update, if_neg hroot, hentries, Entries.get?_mapValues]
    cases hnode : Entries.get? name r.entries with
    | none => rfl
    | some node =>
        have hmap : (node.map Logger.forget).map change = (node.map change).map Logger.forget := by
          cases node with
          | made logger parent => exact congrArg (Node.made · parent) (h logger)
          | placeholder below => rfl
        show enter r.forget name ((node.map Logger.forget).map change) = _
        rw [hmap, enter, hentries, Entries.put_mapValues]
        rfl

/-! ### Properties of all loggers -/

/-- A property of all loggers: of the root logger, and of each that has been made. -/
structure All (P : Logger → Prop) (r : Registry) : Prop where
  root : P r.root
  made : ∀ {name logger parent}, (name, Node.made logger parent) ∈ r.entries → P logger

namespace All

variable {P : Logger → Prop}

/-- What holds of `All` holds of the logger that `find?` finds. -/
theorem of_find? (h : r.All P) {logger : Logger} (hfind : r.find? name = some logger) :
    P logger := by
  rw [find?] at hfind
  split at hfind
  next =>
    obtain rfl := Option.some.inj hfind
    exact h.root
  next =>
    rw [made?] at hfind
    split at hfind
    next found parent hnode =>
      obtain rfl := Option.some.inj hfind
      exact h.made (Entries.mem_of_get?_eq_some hnode)
    next => cases hfind

/-- What holds of `All` holds of those that `Registry.loggers` lists. -/
theorem of_mem_loggers (h : r.All P) {entry : Text × Logger} (hentry : entry ∈ r.loggers) :
    P entry.2 := by
  obtain ⟨⟨name, node⟩, hnode, hsome⟩ := List.mem_filterMap.mp hentry
  cases node with
  | made logger parent =>
      obtain rfl := Option.some.inj hsome
      exact h.made hnode
  | placeholder below => cases hsome

/-- Something else at a name. -/
theorem enter (h : r.All P) {node : Node}
    (hnode : ∀ logger parent, node = .made logger parent → P logger) :
    (r.enter name node).All P where
  root := h.root
  made hmem := by
    rcases Entries.mem_or_eq_of_mem_put hmem with hmem | heq
    · exact h.made hmem
    · exact hnode _ _ (congrArg Prod.snd heq).symm

/-- `link` changes no logger. -/
theorem link (h : r.All P) (parent : Text) : (r.link name parent).All P := by
  rw [Registry.link]
  split
  next logger above hnode =>
    refine h.enter fun found _ heq => ?_
    injection heq with heq
    exact heq ▸ h.made (Entries.mem_of_get?_eq_some hnode)
  next => exact h

/-- `adopt` changes no logger. -/
theorem foldl_adopt (h : r.All P) (children : List Text) :
    (children.foldl (adopt name) r).All P := by
  induction children generalizing r with
  | nil => exact h
  | cons child rest ih =>
      refine ih ?_
      rw [adopt]
      split
      · split
        · exact h
        · exact h.link name
      · exact h

/-- `climb` changes no logger, since placeholders are none. -/
theorem climb (h : r.All P) (above : List Text) : (climb name above r).2.All P := by
  induction above generalizing r with
  | nil => exact h
  | cons first rest ih =>
      rw [Registry.climb]
      split
      · exact h
      · exact ih (h.enter fun _ _ heq => by cases heq)

/-- `make` gives `All` one bare logger more. -/
theorem make (h : r.All P) (hbare : P {}) (name : Text) : (r.make name).All P := by
  rw [Registry.make]
  split
  · exact h
  · refine All.link (All.climb (All.foldl_adopt (h.enter fun logger _ heq => ?_) _) _) _
    injection heq with heq
    exact heq ▸ hbare

/-- `update` has to give the property to the changed logger only. -/
theorem update (h : r.All P) {change : Logger → Logger}
    (hchange : ∀ logger, r.find? name = some logger → P logger → P (change logger)) :
    (r.update name change).All P := by
  rw [Registry.update]
  split
  next hroot =>
    have hfind : r.find? name = some r.root := if_pos hroot
    exact ⟨hchange _ hfind h.root, h.made⟩
  next hroot =>
    split
    next node hnode =>
      refine h.enter fun logger parent heq => ?_
      cases node with
      | made found above =>
          have hfind : r.find? name = some found := by
            rw [find?, if_neg hroot, made?, hnode]
          injection heq with heq
          exact heq ▸ hchange found hfind (h.of_find? hfind)
      | placeholder below => cases heq
    next => exact h

/-- `forget` takes the decisions of each logger. -/
theorem forget (h : r.All P) (hforget : ∀ logger, P logger → P logger.forget) :
    r.forget.All P where
  root := hforget _ h.root
  made hmem := by
    obtain ⟨⟨other, node⟩, hnode, heq⟩ := List.mem_map.mp hmem
    injection heq with _ heq
    cases node with
    | made found above =>
        injection heq with heq
        exact heq ▸ hforget found (h.made hnode)
    | placeholder below => cases heq

/-- `setProgramLevel` sets the program's loggers, and takes the decisions of each. -/
theorem setProgramLevel (h : r.All P) {level : Nat}
    (hlevel : ∀ logger, P logger → P (logger.setLevel level))
    (hforget : ∀ logger, P logger → P logger.forget) : (r.setProgramLevel level).All P := by
  have hfold : ∀ (names : List Text) (r : Registry), r.All P →
      (names.foldl (fun r name => r.update name (Logger.setLevel level)) r).All P := by
    intro names
    induction names with
    | nil => exact fun _ h => h
    | cons first rest ih => exact fun r h => ih _ (h.update fun logger _ => hlevel logger)
  exact (hfold r.programNames r h).forget hforget

end All

/-! ### Attaching -/

/-- The logger of a name gets a level, and more handlers at that level, by `Logger.attach`. -/
def attach (name : Text) (level : Nat) (sinks : List Sink) (r : Registry) : Registry :=
  (r.update name (Logger.attach level sinks)).forget

/-- `attach` without handlers is `setLevel`. -/
theorem attach_nil (name : Text) (level : Nat) (r : Registry) :
    r.attach name level [] = r.setLevel name level := by
  have hnil : Logger.attach level [] = fun logger => { logger with level } := by
    funext logger
    simp [Logger.attach]
  rw [attach, hnil, setLevel]

/-- `attach` with one handler more at the same level is an `update` after `attach`. -/
theorem update_attach (name : Text) (level : Nat) (sinks : List Sink) (sink : Sink)
    (r : Registry) :
    ((r.attach name level sinks).update name fun logger =>
        { logger with handlers := logger.handlers ++ [⟨sink, level⟩] }) =
      r.attach name level (sinks ++ [sink]) := by
  have hadd : (fun logger : Logger =>
        { logger with handlers := logger.handlers ++ [⟨sink, level⟩] }) ∘
          Logger.attach level sinks = Logger.attach level (sinks ++ [sink]) := by
    funext logger
    simp [Logger.attach]
  rw [attach, update_forget, update_update, hadd, attach]
  exact fun _ => rfl

/-! ### Changes -/

/-- Where the handlers of a logger write: to the console, and perhaps to one file. -/
def IsAttachment (sinks : List Sink) : Prop :=
  sinks = [.console] ∨ ∃ location, sinks = [.console, .file location]

/-- The changes of the loggers. Handlers are only given to a logger that has none. -/
inductive Change : Registry → Registry → Prop where
  | make (r : Registry) (name : Text) : Change r (r.make name)
  | settle (r : Registry) (name : Text) (level : Nat) : Change r (r.settle name level)
  | strip (r : Registry) (name : Text) :
      Change r (r.update name fun logger => { logger with handlers := [] })
  | attach {r : Registry} {name : Text} (level : Nat) {sinks : List Sink}
      (hbare : (r.logger name).handlers = []) (hsinks : IsAttachment sinks) :
      Change r (r.attach name level sinks)
  | setProgramLevel (r : Registry) (level : Nat) : Change r (r.setProgramLevel level)

/-- One registry comes from another by any number of `Change`s. -/
abbrev Reaches : Registry → Registry → Prop :=
  Relation.ReflTransGen Change

end Registry

end Transcode.Log
