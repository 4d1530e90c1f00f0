import Transcode.CommandLine.Options

/-!
# A level in front of a command line

A level that is chosen in front of a command line is one of its options and has no part in any
other: with it and without it the command line stops for the same reason, or gives the same options
up to the level. What follows is read from left to right in either case, so the induction is on what
is left to be read, for any two options that agree so far.

## Main definitions

* `Options.withoutLevel` — the options but the level;
* `SameButLevel` — two ends of reading that differ at most in the level;
* `IsLevelChoice` — what chooses a level, or nothing at all.

## Main results

* `take_sameButLevel` — reading on from options that differ at most in the level;
* `parse_sameButLevel` — a command line with a level in front of it.
-/

namespace Transcode.CommandLine

/-- The options but the level. -/
def Options.withoutLevel (o : Options) : Options :=
  { o with logLevel := .null }

/-- Two ends of reading a command line: both stop for one reason, or both give options, which are
the same `withoutLevel`. -/
def SameButLevel (x y : Except Stop Options) : Prop :=
  (∃ stop, x = .error stop ∧ y = .error stop) ∨
    ∃ a b, x = .ok a ∧ y = .ok b ∧ a.withoutLevel = b.withoutLevel

/-- Arguments that choose one of the `levelChoices`, or none at all. -/
def IsLevelChoice (front : List String) : Prop :=
  front = [] ∨ ∃ level ∈ levelChoices, front = ["--log-level", level]

theorem SameButLevel.refl (x : Except Stop Options) : SameButLevel x x := by
  cases x with
  | error stop => exact .inl ⟨stop, rfl, rfl⟩
  | ok o => exact .inr ⟨o, o, rfl, rfl, rfl⟩

theorem SameButLevel.symm {x y : Except Stop Options} (h : SameButLevel x y) : SameButLevel y x := by
  obtain ⟨stop, hx, hy⟩ | ⟨a, b, hx, hy, hab⟩ := h
  · exact .inl ⟨stop, hy, hx⟩
  · exact .inr ⟨b, a, hy, hx, hab.symm⟩

theorem SameButLevel.trans {x y z : Except Stop Options} (hxy : SameButLevel x y)
    (hyz : SameButLevel y z) : SameButLevel x z := by
  obtain ⟨stop, hx, rfl⟩ | ⟨a, b, hx, rfl, hab⟩ := hxy
  · obtain ⟨stop', heq, hz⟩ | ⟨_, _, heq, -⟩ := hyz
    · exact .inl ⟨stop, hx, Except.error.inj heq ▸ hz⟩
    · cases heq
  · obtain ⟨_, heq, -⟩ | ⟨b', c, heq, hz, hbc⟩ := hyz
    · cases heq
    · obtain rfl := Except.ok.inj heq
      exact .inr ⟨a, c, hx, hz, hab.trans hbc⟩

/-- What is done next, if there are options, leaves `SameButLevel` ends. -/
theorem SameButLevel.next {x y : Except Stop Options} {f g : Options → Except Stop Options} :
    SameButLevel x y →
    (∀ a b, a.withoutLevel = b.withoutLevel → SameButLevel (f a) (g b)) →
    SameButLevel
      (match x with
        | .error stop => .error stop
        | .ok o => f o)
      (match y with
        | .error stop => .error stop
        | .ok o => g o) := by
  rintro (⟨stop, rfl, rfl⟩ | ⟨a, b, rfl, rfl, hab⟩) hnext
  · exact .inl ⟨stop, rfl, rfl⟩
  · exact hnext a b hab

namespace Options

variable {a b : Options}

/-- Options that are the same `withoutLevel` name one configuration file. -/
theorem config_of_withoutLevel (h : a.withoutLevel = b.withoutLevel) : a.config = b.config := by
  have hconfig : a.withoutLevel.config = b.withoutLevel.config := congrArg Options.config h
  exact hconfig

/-! ### Switches -/

/-- `flag` does not look at the level. -/
theorem flag_sameButLevel (h : a.withoutLevel = b.withoutLevel) (switch : Switch) :
    SameButLevel (a.flag switch) (b.flag switch) := by
  cases switch with
  | help => exact .inl ⟨.help, rfl, rfl⟩
  | listPresets =>
      exact .inr ⟨_, _, rfl, rfl, congrArg (fun o : Options => { o with listPresets := true }) h⟩
  | _ => exact .inr ⟨a, b, rfl, rfl, h⟩

/-- Nor does `flags`. -/
theorem flags_sameButLevel (h : a.withoutLevel = b.withoutLevel) (switches : List Switch) :
    SameButLevel (a.flags switches) (b.flags switches) := by
  induction switches generalizing a b with
  | nil => exact .inr ⟨a, b, rfl, rfl, h⟩
  | cons switch rest ih =>
      rw [flags, flags]
      obtain ⟨stop, ha, hb⟩ | ⟨a', b', ha, hb, h'⟩ := flag_sameButLevel h switch
      · rw [ha, hb]
        exact .inl ⟨stop, rfl, rfl⟩
      · rw [ha, hb]
        exact ih h'

/-- `assign` does not look at the level, though it may be what gives it. -/
theorem assign_sameButLevel (h : a.withoutLevel = b.withoutLevel) (switch : Switch)
    (argument : String) : SameButLevel (a.assign switch argument) (b.assign switch argument) := by
  have hset (change : Options → Options)
      (hchange : ∀ o : Options, (change o.withoutLevel).withoutLevel = (change o).withoutLevel) :
      (change a).withoutLevel = (change b).withoutLevel := by
    rw [← hchange a, ← hchange b, h]
  cases switch with
  | logLevel =>
      rw [assign, assign]
      split
      · exact .inr ⟨_, _, rfl, rfl, h⟩
      · exact .inl ⟨_, rfl, rfl⟩
  | preset =>
      let change (o : Options) : Options := { o with preset := valueOf argument }
      exact .inr ⟨change a, change b, rfl, rfl, hset change fun _ => rfl⟩
  | input =>
      let change (o : Options) : Options := { o with input := valueOf argument }
      exact .inr ⟨change a, change b, rfl, rfl, hset change fun _ => rfl⟩
  | output =>
      let change (o : Options) : Options := { o with output := valueOf argument }
      exact .inr ⟨change a, change b, rfl, rfl, hset change fun _ => rfl⟩
  | config =>
      let change (o : Options) : Options := { o with config := valueOf argument }
      exact .inr ⟨change a, change b, rfl, rfl, hset change fun _ => rfl⟩
  | _ => exact .inr ⟨a, b, rfl, rfl, h⟩

/-! ### Command lines -/

/-- `take` from options that are the same `withoutLevel` ends in the same way up to the level. -/
theorem take_sameButLevel (arguments : List (String × Argument)) {a b : Options}
    (h : a.withoutLevel = b.withoutLevel) (extra : List String) :
    SameButLevel (a.take extra arguments) (b.take extra arguments) := by
  match arguments with
  | [] =>
      rw [take, take]
      split
      · exact .inr ⟨a, b, rfl, rfl, h⟩
      · exact .inl ⟨_, rfl, rfl⟩
  | (_, .known switch isShort glued) :: rest =>
      rw [take, take]
      cases clusterOf switch isShort glued with
      | error m => exact .inl ⟨_, rfl, rfl⟩
      | ok found =>
          dsimp only
          split
          next value _ =>
            refine (flags_sameButLevel h found.flags).next fun _ _ h => ?_
            refine (assign_sameButLevel h found.last value).next fun _ _ h => ?_
            exact take_sameButLevel rest h extra
          next =>
            split
            next =>
              split
              next value rest =>
                refine (flags_sameButLevel h found.flags).next fun _ _ h => ?_
                refine (assign_sameButLevel h found.last value).next fun _ _ h => ?_
                exact take_sameButLevel rest h extra
              next => exact .inl ⟨_, rfl, rfl⟩
            next =>
              refine (flags_sameButLevel h (found.flags ++ [found.last])).next fun _ _ h => ?_
              exact take_sameButLevel rest h extra
  | (argument, .operand) :: rest | (argument, .endMark) :: rest | (argument, .unknown) :: rest =>
      rw [take, take]
      · exact take_sameButLevel rest h (extra ++ [argument])
      all_goals exact fun _ _ _ h => nomatch h
termination_by arguments.length

/-- `classify` takes the switch of the level for one whose value follows. -/
theorem classify_logLevel :
    Argument.classify "--log-level" = .ok (.known .logLevel false none) := by
  rfl

/-- `classify` takes one of the `levelChoices` for a value. -/
theorem classify_of_mem_levelChoices {level : String} (h : level ∈ levelChoices) :
    Argument.classify level = .ok .operand := by
  simp only [levelChoices, List.mem_cons, List.not_mem_nil, or_false] at h
  obtain rfl | rfl | rfl | rfl := h <;> rfl

/-- `assign` of one of the `levelChoices` gives that level, since none is two hyphens. -/
theorem assign_logLevel {level : String} (h : level ∈ levelChoices) (o : Options) :
    o.assign .logLevel level = .ok { o with logLevel := valueOf level } := by
  rw [assign, if_pos (Or.inr (List.contains_iff_mem.mpr h))]

/-- `parse` reads what follows a level in front on from options with that level. -/
theorem parse_level_cons {level : String} (h : level ∈ levelChoices) (arguments : List String) :
    parse ("--log-level" :: level :: arguments) =
      match Argument.classifyAll arguments with
      | .error m => .error (.misuse m)
      | .ok classified => take { logLevel := valueOf level } [] classified := by
  rw [parse, Argument.classifyAll, classify_logLevel]
  dsimp only
  rw [Argument.classifyAll, classify_of_mem_levelChoices h]
  dsimp only
  cases Argument.classifyAll arguments with
  | error m => rfl
  | ok classified =>
      show take {} [] (("--log-level", .known .logLevel false none) :: (level, .operand) ::
        classified) = _
      rw [take, clusterOf]
      dsimp only [flags]
      rw [if_pos (by decide), assign_logLevel h]

/-- **A level in front of a command line** makes no difference to it but the level. -/
theorem parse_sameButLevel {front : List String} (h : IsLevelChoice front)
    (arguments : List String) :
    SameButLevel (parse (front ++ arguments)) (parse arguments) := by
  obtain rfl | ⟨level, hlevel, rfl⟩ := h
  · exact SameButLevel.refl _
  · rw [List.cons_append, List.cons_append, List.nil_append, parse_level_cons hlevel, parse]
    cases Argument.classifyAll arguments with
    | error m => exact .inl ⟨_, rfl, rfl⟩
    | ok classified =>
        have hlevel : ({ logLevel := valueOf level } : Options).withoutLevel =
            ({} : Options).withoutLevel := rfl
        exact take_sameButLevel classified hlevel []

/-- If there are options with a level in front, there are options without it. -/
theorem exists_parse_of_isLevelChoice {front arguments : List String} (h : IsLevelChoice front)
    (hparse : parse (front ++ arguments) = .ok a) :
    ∃ o, parse arguments = .ok o ∧ a.withoutLevel = o.withoutLevel := by
  obtain ⟨_, hstop, -⟩ | ⟨a', o, ha, ho, hsame⟩ := parse_sameButLevel h arguments
  · rw [hparse] at hstop
    cases hstop
  · rw [hparse] at ha
    obtain rfl := Except.ok.inj ha
    exact ⟨o, ho, hsame⟩

end Options

end Transcode.CommandLine
