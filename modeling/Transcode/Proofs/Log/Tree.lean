import Transcode.Proofs.Log.Equipment

/-!
# The program's part of the tree

What is above a logger of the program is another logger of the program, or the root logger: the
names above a name of the program are names of the program, and a logger that takes its place above
others later only takes those that have its name above them. So a record of the program's loggers
never gets to the handlers of another one, however the loggers have been made.

## Main definitions

* `Node.IsPlaced`, `Registry.IsPlaced` — the program's loggers are below each other and the root
  logger.

## Main results

* `isProgramName_of_mem_namesAbove` — the names above a name of the program;
* `IsPlaced.make` — a logger that is made finds its place;
* `Change.isPlaced`, `Reaches.isPlaced` — every change of the loggers leaves them in their places;
* `IsPlaced.eq_root_or_exists_of_mem_chainFrom` — the loggers that a record gets to;
* `handlersOf_ne_nil` — its own logger is among them.
-/

namespace Transcode.Log

variable {r after : Registry} {name parent : Text}

/-! ### Names -/

/-- One of `namesAbove` a name ends before a dot. -/
theorem exists_of_mem_namesAbove {above reversed : Text} (h : above ∈ namesAbove reversed) :
    ∃ rest, reversed.reverse = above ++ .char '.' :: rest := by
  induction reversed using namesAbove.induct with
  | case1 c before ih =>
      rw [namesAbove, List.mem_cons] at h
      rcases h with rfl | h
      · exact ⟨[], by simp⟩
      · obtain ⟨rest, hrest⟩ := ih h
        exact ⟨rest ++ [c, .char '.'], by simp [hrest]⟩
  | case2 c before hdot ih =>
      rw [namesAbove] at h
      · obtain ⟨rest, hrest⟩ := ih h
        exact ⟨rest ++ [c], by simp [hrest]⟩
      · exact hdot
  | case3 => cases h

namespace Registry

/-- `isProgramName` holds of the program's own name, and of that name with a dot and something
behind it. -/
theorem isProgramName_iff : isProgramName name = true ↔
    name = programName ∨ ∃ rest, name = programName ++ .char '.' :: rest := by
  rw [isProgramName, Bool.or_eq_true, decide_eq_true_eq, List.isPrefixOf_iff_prefix]
  refine or_congr_right ⟨fun ⟨rest, hrest⟩ => ⟨rest, ?_⟩, fun ⟨rest, hrest⟩ => ⟨rest, ?_⟩⟩
  · rw [← hrest, List.append_assoc, List.singleton_append]
  · rw [hrest, List.append_assoc, List.singleton_append]

/-- There is no dot in `programName`, so where a name of the program is cut at a dot,
`isProgramName` holds of what is before it as well. -/
theorem isProgramName_of_append {above rest : Text} (h : isProgramName name = true)
    (hname : name = above ++ .char '.' :: rest) : isProgramName above = true := by
  have hdot : Sign.char '.' ∉ programName := by decide
  rcases isProgramName_iff.mp h with rfl | ⟨behind, hbehind⟩
  · rw [hname] at hdot
    exact absurd (List.mem_append_right _ List.mem_cons_self) hdot
  rw [hname] at hbehind
  rw [isProgramName_iff]
  rcases List.append_eq_append_iff.mp hbehind with ⟨more, hprogram, hmore⟩ | ⟨more, habove, hmore⟩
  · cases more with
    | nil =>
        rw [List.append_nil] at hprogram
        exact .inl hprogram.symm
    | cons c more =>
        -- the cut would be inside the name of the program
        rw [List.cons_append, List.cons.injEq] at hmore
        rw [hprogram, ← hmore.1] at hdot
        exact absurd (List.mem_append_right _ List.mem_cons_self) hdot
  · cases more with
    | nil =>
        rw [List.append_nil] at habove
        exact .inl habove
    | cons c more =>
        rw [List.cons_append, List.cons.injEq] at hmore
        rw [← hmore.1] at habove
        exact .inr ⟨more, habove⟩

/-- `isProgramName` goes up to the names above a name. -/
theorem isProgramName_of_mem_namesAbove {above : Text} (h : isProgramName name = true)
    (habove : above ∈ namesAbove name.reverse) : isProgramName above = true := by
  obtain ⟨rest, hrest⟩ := exists_of_mem_namesAbove habove
  rw [List.reverse_reverse] at hrest
  exact isProgramName_of_append h hrest

end Registry

/-! ### Places -/

/-- What stands at a name is **placed** if the program's names stay among themselves: what is above
a logger of the program is another one or the root logger, and a placeholder that knows of a logger
of the program has a name of the program as well. The root logger has no place. -/
inductive Node.IsPlaced (name : Text) : Node → Prop where
  | made {logger : Logger} {parent : Text} (hroot : name ≠ rootName)
      (hparent : Registry.isProgramName name = true →
        parent = rootName ∨ Registry.isProgramName parent = true) :
      IsPlaced name (.made logger parent)
  | placeholder {below : List Text}
      (hbelow : ∀ child ∈ below, Registry.isProgramName child = true →
        Registry.isProgramName name = true) :
      IsPlaced name (.placeholder below)

/-- A logger that is changed stays in its place: `Node.map` leaves what `IsPlaced`. -/
theorem Node.IsPlaced.map {node : Node} (h : node.IsPlaced name) (change : Logger → Logger) :
    (node.map change).IsPlaced name := by
  cases h with
  | made hroot hparent => exact .made hroot hparent
  | placeholder hbelow => exact .placeholder hbelow

namespace Registry

/-- All that stands at names is placed, by `Node.IsPlaced`. -/
def IsPlaced (r : Registry) : Prop :=
  ∀ entry ∈ r.entries, entry.2.IsPlaced entry.1

namespace IsPlaced

theorem get? (h : r.IsPlaced) {node : Node} (hnode : Entries.get? name r.entries = some node) :
    node.IsPlaced name :=
  h _ (Entries.mem_of_get?_eq_some hnode)

/-- Something else at a name. -/
theorem enter (h : r.IsPlaced) {node : Node} (hnode : node.IsPlaced name) :
    (r.enter name node).IsPlaced := by
  intro entry hmem
  rcases Entries.mem_or_eq_of_mem_put hmem with hmem | rfl
  · exact h entry hmem
  · exact hnode

/-- `link` puts a logger of the program below another one or the root logger. -/
theorem link (h : r.IsPlaced)
    (hparent : isProgramName name = true → parent = rootName ∨ isProgramName parent = true) :
    (r.link name parent).IsPlaced := by
  rw [Registry.link]
  split
  next logger above hnode =>
    cases h.get? hnode with
    | made hroot _ => exact h.enter (.made hroot hparent)
  next => exact h

/-- A placeholder has a logger of the program `below` it only if it has a name of the program. -/
theorem isProgramName_of_mem_below (h : r.IsPlaced) {child : Text} (hmem : child ∈ r.below name)
    (hchild : isProgramName child = true) : isProgramName name = true := by
  rw [below] at hmem
  split at hmem
  next known hnode =>
    cases h.get? hnode with
    | placeholder hbelow => exact hbelow child hmem hchild
  next => cases hmem

/-- `adopt` leaves a logger of the program below one of its own or the root logger. -/
theorem foldl_adopt (h : r.IsPlaced) (name : Text) (children : List Text)
    (hchildren : ∀ child ∈ children, isProgramName child = true → isProgramName name = true) :
    (children.foldl (adopt name) r).IsPlaced := by
  induction children generalizing r with
  | nil => exact h
  | cons child rest ih =>
      refine ih (r := adopt name r child) ?_
        fun other hother => hchildren other (List.mem_cons_of_mem _ hother)
      rw [adopt]
      split
      · split
        · exact h
        · exact h.link fun hchild => .inr (hchildren child List.mem_cons_self hchild)
      · exact h

/-- `climb` leads to a name above or to the root logger, and placeholders on the way get to know of
the name. -/
theorem climb (h : r.IsPlaced) (above : List Text)
    (habove : isProgramName name = true → ∀ other ∈ above, isProgramName other = true) :
    (climb name above r).2.IsPlaced ∧
      (isProgramName name = true →
        (Registry.climb name above r).1 = rootName ∨
          isProgramName (Registry.climb name above r).1 = true) := by
  induction above generalizing r with
  | nil => exact ⟨h, fun _ => .inl rfl⟩
  | cons first rest ih =>
      rw [Registry.climb]
      split
      · exact ⟨h, fun hname => .inr (habove hname first List.mem_cons_self)⟩
      · refine ih (h.enter (.placeholder fun child hmem hchild => ?_))
          fun hname other hother => habove hname other (List.mem_cons_of_mem _ hother)
        rcases List.mem_append.mp hmem with hmem | hmem
        · exact h.isProgramName_of_mem_below hmem hchild
        · rw [List.mem_singleton.mp hmem] at hchild
          exact habove hchild first List.mem_cons_self

/-- `make` finds the place of a logger. -/
theorem make (h : r.IsPlaced) (name : Text) : (r.make name).IsPlaced := by
  rw [Registry.make]
  split
  next => exact h
  next hnew =>
    rw [not_or] at hnew
    have hbare : (r.enter name (.made {} rootName)).IsPlaced :=
      h.enter (.made hnew.1 fun _ => .inl rfl)
    have hadopted := hbare.foldl_adopt name (r.below name)
      fun child hchild => h.isProgramName_of_mem_below hchild
    obtain ⟨hclimbed, hparent⟩ := hadopted.climb (namesAbove name.reverse)
      fun hname other hother => isProgramName_of_mem_namesAbove hname hother
    exact hclimbed.link hparent

/-- `update` leaves a logger in its place. -/
theorem update (h : r.IsPlaced) (name : Text) (change : Logger → Logger) :
    (r.update name change).IsPlaced := by
  rw [Registry.update]
  split
  next => exact h
  next =>
    split
    next node hnode => exact h.enter ((h.get? hnode).map change)
    next => exact h

/-- `forget` has nothing to do with places. -/
theorem forget (h : r.IsPlaced) : r.forget.IsPlaced := by
  intro entry hmem
  obtain ⟨found, hfound, rfl⟩ := List.mem_map.mp hmem
  exact (h found hfound).map Logger.forget

/-- `setProgramLevel` has nothing to do with places. -/
theorem setProgramLevel (h : r.IsPlaced) (level : Nat) : (r.setProgramLevel level).IsPlaced := by
  have hfold : ∀ (names : List Text) (r : Registry), r.IsPlaced →
      (names.foldl (fun r name => r.update name (Logger.setLevel level)) r).IsPlaced := by
    intro names
    induction names with
    | nil => exact fun _ h => h
    | cons first rest ih => exact fun r h => ih _ (h.update first _)
  exact (hfold r.programNames r h).forget

end IsPlaced

/-- Every `Change` leaves the loggers in their places. -/
theorem Change.isPlaced (hchange : Change r after) (h : r.IsPlaced) : after.IsPlaced := by
  cases hchange with
  | make name => exact h.make name
  | settle name level => exact h.update name _
  | strip name => exact h.update name _
  | @attach name level sinks hbare hsinks => exact (h.update name _).forget
  | setProgramLevel level => exact h.setProgramLevel level

/-- So does any number of changes, by `Reaches`. -/
theorem Reaches.isPlaced (hreaches : Reaches r after) (h : r.IsPlaced) : after.IsPlaced := by
  induction hreaches with
  | refl => exact h
  | tail _ hchange ih => exact hchange.isPlaced ih

/-! ### Up the tree -/

/-- The logger at a name. -/
theorem logger_of_get? {logger : Logger} (hroot : name ≠ rootName)
    (h : Entries.get? name r.entries = some (.made logger parent)) : r.logger name = logger := by
  rw [Registry.logger, if_neg hroot, made?, h]
  rfl

/-- **The loggers that a record gets to** from a logger of the program: the root logger, and loggers
of the program. The induction goes up the tree. -/
theorem IsPlaced.eq_root_or_exists_of_mem_chainFrom (h : r.IsPlaced) {fuel : Nat}
    (hname : name = rootName ∨ isProgramName name = true) {logger : Logger}
    (hmem : logger ∈ r.chainFrom fuel name) :
    logger = r.root ∨ ∃ other, isProgramName other = true ∧ r.logger other = logger := by
  induction fuel generalizing name with
  | zero => exact .inl (List.mem_singleton.mp hmem)
  | succ fuel ih =>
      rw [chainFrom] at hmem
      split at hmem
      next found parent hnode =>
        cases h.get? hnode with
        | made hroot hparent =>
            have hprogram := hname.resolve_left hroot
            rcases List.mem_cons.mp hmem with rfl | hmem
            · exact .inr ⟨name, hprogram, logger_of_get? hroot hnode⟩
            · exact ih (hparent hprogram) hmem
      next => exact .inl (List.mem_singleton.mp hmem)

/-- `handlersOf` a logger has its own handlers, if there are any. -/
theorem handlersOf_ne_nil (hname : isProgramName name = true)
    (h : (r.logger name).handlers ≠ []) : r.handlersOf name ≠ [] := by
  have hroot := ne_rootName_of_isProgramName hname
  rw [handlersOf, chain, chainFrom]
  split
  next logger parent hnode =>
    rw [logger_of_get? hroot hnode] at h
    rw [List.flatMap_cons]
    exact fun hnil => h (List.append_eq_nil_iff.mp hnil).1
  next hnone =>
    rw [Registry.logger, if_neg hroot, made?] at h
    split at h
    next logger parent hnode => exact absurd hnode (hnone logger parent)
    next => exact absurd rfl h

end Registry

end Transcode.Log
