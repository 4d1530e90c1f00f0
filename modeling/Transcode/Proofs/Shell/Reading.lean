import Transcode.Shell.Words

/-!
# Reading a text from left to right

What the words of a text are can be told without building any: go through the text from left to
right, keep in mind whether the place is quoted, and mark each sign with what it is for. A blank
that is not quoted separates words. A quotation mark that opens or closes a quotation, and a
backslash that escapes the sign after it, are marks and belong to no word. Every other sign is kept.
Between double quotes a backslash escapes only a double quote or a backslash, and otherwise is kept
itself.

The words are then the runs of signs that are no separators, each without its marks. A run of marks
alone, such as an empty quotation, is an empty word. The text has words unless the reading ends
inside a quotation, or right after a backslash.

The reader of `Words.split` builds the words from the end of the text to its beginning and has one
more mode, since it knows whether a word has been begun. It finds the same words.

## Main definitions

* `Quoting`, `Quoting.next`, `Quoting.after` — how a place is quoted;
* `Role`, `Quoting.role`, `marked` — what each sign is for;
* `runs`, `kept` — the runs of signs that are no separators, and the signs that stay.

## Main results

* `Words.readFrom_eq` — the reader in each of its modes, by induction along it;
* `Words.split_eq` — the words of a text are its runs without their marks;
* `flatten_map_kept_runs`, `Words.flatten_of_split` — no sign is lost but separators and marks.
-/

namespace Transcode.Shell

open Words (Mode isBlank opens? prepend readFrom split)

/-! ### Places and signs -/

/-- How a place of a text is quoted. -/
inductive Quoting where
  | plain
  | single
  | double
  /-- Right after a backslash outside quotes. -/
  | escaped
  /-- Right after a backslash between double quotes. -/
  | doubleEscaped
  deriving DecidableEq, Repr

/-- What a sign of a text is for. -/
inductive Role where
  /-- It separates words. -/
  | separator
  /-- It opens or closes a quotation, or escapes the sign after it. -/
  | mark
  /-- It stands for itself in a word. -/
  | kept
  deriving DecidableEq, Repr

/-- The blanks: space, tab, carriage return and line feed. -/
def blanks : Text := [.char ' ', .char '\t', .char '\r', .char '\n']

namespace Quoting

/-- The `Quoting` of the place behind a sign. -/
def next (q : Quoting) (s : Sign) : Quoting :=
  match q with
  | .plain =>
    if s = .char '\'' then .single
    else if s = .char '"' then .double
    else if s = .char '\\' then .escaped
    else .plain
  | .single => if s = .char '\'' then .plain else .single
  | .double =>
    if s = .char '"' then .plain else if s = .char '\\' then .doubleEscaped else .double
  | .escaped => .plain
  | .doubleEscaped => .double

/-- The `Quoting` of the place behind a text. -/
def after (q : Quoting) (text : Text) : Quoting :=
  text.foldl next q

/-- The `Role` of a sign, before the rest of the text. -/
def role (q : Quoting) (s : Sign) (rest : Text) : Role :=
  match q with
  | .plain =>
    if s ∈ blanks then .separator
    else if s = .char '\'' ∨ s = .char '"' ∨ s = .char '\\' then .mark
    else .kept
  | .single => if s = .char '\'' then .mark else .kept
  | .double =>
    if s = .char '"' then .mark
    else if s = .char '\\' ∧ (rest.head? = some (.char '"') ∨ rest.head? = some (.char '\\')) then
      .mark
    else .kept
  | .escaped | .doubleEscaped => .kept

/-- Why a text that ends at a place has no words, unless it has. -/
def fault? : Quoting → Option SplitFault
  | .plain => none
  | .single | .double => some .unclosedQuote
  | .escaped | .doubleEscaped => some .missingEscaped

end Quoting

/-- The signs of a text, each with its `Role`. -/
def marked (q : Quoting) : Text → List (Sign × Role)
  | [] => []
  | s :: rest => (s, q.role s rest) :: marked (q.next s) rest

/-- The signs that stand for themselves, by `Role.kept`. -/
def kept (signs : List (Sign × Role)) : Text :=
  (signs.filter fun sign => sign.2 = .kept).map Prod.fst

/-- The `Role` of the sign is to separate words. -/
def isSeparator (sign : Sign × Role) : Bool :=
  sign.2 = .separator

/-- The maximal runs of signs that are no separators. -/
def runs (signs : List (Sign × Role)) : List (List (Sign × Role)) :=
  (signs.splitOnP isSeparator).filter fun run => !run.isEmpty

variable {s : Sign} {r : Role} {signs : List (Sign × Role)}

/-- `marked` has all signs of a text, in their order. -/
theorem map_fst_marked (q : Quoting) (text : Text) : (marked q text).map Prod.fst = text := by
  induction text generalizing q with
  | nil => rfl
  | cons s rest ih => rw [marked, List.map_cons, ih]

theorem marked_cons (q : Quoting) (s : Sign) (rest : Text) :
    marked q (s :: rest) = (s, q.role s rest) :: marked (q.next s) rest := rfl

theorem after_cons (q : Quoting) (s : Sign) (rest : Text) :
    q.after (s :: rest) = (q.next s).after rest := rfl

/-- `kept` signs are signs of the text, in their order. -/
theorem kept_marked_sublist (q : Quoting) (text : Text) : (kept (marked q text)).Sublist text := by
  have h : (kept (marked q text)).Sublist ((marked q text).map Prod.fst) :=
    List.filter_sublist.map Prod.fst
  rwa [map_fst_marked] at h

/-! ### Runs -/

theorem kept_cons_of_ne (h : r ≠ .kept) : kept ((s, r) :: signs) = kept signs := by
  simp [kept, h]

theorem kept_cons (sign : Sign × Role) (signs : List (Sign × Role)) :
    kept (sign :: signs) = kept [sign] ++ kept signs := by
  rw [kept, ← List.singleton_append, List.filter_append, List.map_append, kept, kept]

/-- The runs of signs of which the first ones continue a run. -/
def runsWithin (signs : List (Sign × Role)) : List (List (Sign × Role)) :=
  match signs.splitOnP isSeparator with
  | [] => []
  | first :: others => first :: others.filter fun run => !run.isEmpty

/-- A separator stands between two pieces. -/
theorem splitOnP_separator :
    ((s, .separator) :: signs).splitOnP isSeparator = [] :: signs.splitOnP isSeparator := by
  have hsign : isSeparator (s, .separator) = true := rfl
  rw [List.splitOnP_cons_eq_if_modifyHead, if_pos hsign]

/-- Any other sign goes in front of the first piece. -/
theorem exists_splitOnP_cons (s : Sign) (h : r ≠ .separator) (signs : List (Sign × Role)) :
    ∃ first others, signs.splitOnP isSeparator = first :: others ∧
      ((s, r) :: signs).splitOnP isSeparator = ((s, r) :: first) :: others := by
  obtain ⟨first, others, hsplit⟩ :=
    List.exists_cons_of_ne_nil (List.splitOnP_ne_nil isSeparator signs)
  have hsign : ¬isSeparator (s, r) = true := by simpa [isSeparator] using h
  refine ⟨first, others, hsplit, ?_⟩
  rw [List.splitOnP_cons_eq_if_modifyHead, if_neg hsign, hsplit, List.modifyHead_cons]

/-- `runsWithin` a run ends it at a separator. -/
theorem runsWithin_separator : runsWithin ((s, .separator) :: signs) = [] :: runs signs := by
  rw [runsWithin, splitOnP_separator, runs]

/-- `runs` begin with no separator. -/
theorem runs_separator : runs ((s, .separator) :: signs) = runs signs := by
  rw [runs, splitOnP_separator, List.filter_cons_of_neg (by simp), runs]

/-- `runsWithin` a run continues it with any other sign. -/
theorem exists_runsWithin_cons (s : Sign) (h : r ≠ .separator) (signs : List (Sign × Role)) :
    ∃ first others, runsWithin signs = first :: others ∧
      runsWithin ((s, r) :: signs) = ((s, r) :: first) :: others := by
  obtain ⟨first, others, hsigns, hcons⟩ := exists_splitOnP_cons s h signs
  exact ⟨first, others.filter fun run => !run.isEmpty, by rw [runsWithin, hsigns],
    by rw [runsWithin, hcons]⟩

/-- `runs` begin with any other sign. -/
theorem runs_cons (h : r ≠ .separator) :
    runs ((s, r) :: signs) = runsWithin ((s, r) :: signs) := by
  obtain ⟨first, others, -, hcons⟩ := exists_splitOnP_cons s h signs
  rw [runs, runsWithin, hcons, List.filter_cons_of_pos (by simp)]

/-- A sign that is kept is in front of the first word. -/
theorem map_kept_runsWithin_kept :
    (runsWithin ((s, .kept) :: signs)).map kept = prepend s ((runsWithin signs).map kept) := by
  have hkept : Role.kept ≠ .separator := by decide
  obtain ⟨first, others, hsigns, hcons⟩ := exists_runsWithin_cons s hkept signs
  rw [hcons, hsigns]
  rfl

/-- A mark belongs to no word. -/
theorem map_kept_runsWithin_mark :
    (runsWithin ((s, .mark) :: signs)).map kept = (runsWithin signs).map kept := by
  have hmark : Role.mark ≠ .separator := by decide
  obtain ⟨first, others, hsigns, hcons⟩ := exists_runsWithin_cons s hmark signs
  rw [hcons, hsigns, List.map_cons, List.map_cons, kept_cons_of_ne (by decide)]

/-- Between words, a sign that is kept begins one. -/
theorem map_kept_runs_kept :
    (runs ((s, .kept) :: signs)).map kept = prepend s ((runsWithin signs).map kept) := by
  rw [runs_cons (by decide), map_kept_runsWithin_kept]

/-- Between words, a mark begins one without being part of it. -/
theorem map_kept_runs_mark :
    (runs ((s, .mark) :: signs)).map kept = (runsWithin signs).map kept := by
  rw [runs_cons (by decide), map_kept_runsWithin_mark]

/-- Empty pieces hold no signs. -/
theorem flatten_map_kept_filter (pieces : List (List (Sign × Role))) :
    ((pieces.filter fun piece => !piece.isEmpty).map kept).flatten = (pieces.map kept).flatten := by
  induction pieces with
  | nil => rfl
  | cons piece pieces ih =>
      cases piece with
      | nil =>
          rw [List.filter_cons_of_neg (by simp), ih]
          rfl
      | cons sign piece =>
          rw [List.filter_cons_of_pos (by simp), List.map_cons, List.flatten_cons, ih,
            List.map_cons, List.flatten_cons]

/-- `runs` hold all signs that are `kept`, in their order. -/
theorem flatten_map_kept_runs (signs : List (Sign × Role)) :
    ((runs signs).map kept).flatten = kept signs := by
  rw [runs, flatten_map_kept_filter]
  induction signs with
  | nil => rfl
  | cons sign signs ih =>
      obtain ⟨s, r⟩ := sign
      by_cases hr : r = .separator
      · subst hr
        rw [splitOnP_separator, List.map_cons, List.flatten_cons, ih,
          kept_cons_of_ne (by decide)]
        rfl
      · obtain ⟨first, others, hsigns, hcons⟩ := exists_splitOnP_cons s hr signs
        rw [hsigns, List.map_cons, List.flatten_cons] at ih
        rw [hcons, List.map_cons, List.flatten_cons, kept_cons _ first, List.append_assoc, ih,
          ← kept_cons]

/-! ### The reader -/

/-- `blanks` are the signs that the reader takes for blanks. -/
theorem mem_blanks_iff (s : Sign) : s ∈ blanks ↔ isBlank s = true := by
  cases s <;> simp [blanks, isBlank, or_assoc]

/-- The words of a text that ends at a place, if `Quoting.fault?` finds nothing wrong with it. -/
def Quoting.finish (q : Quoting) (words : List Text) : Except SplitFault (List Text) :=
  match q.fault? with
  | some fault => .error fault
  | none => .ok words

theorem Quoting.map_finish (q : Quoting) (f : List Text → List Text) (words : List Text) :
    (q.finish words).map f = q.finish (f words) := by
  cases q <;> rfl

end Transcode.Shell

namespace Transcode.Shell.Words

open Shell

variable {s : Sign} {text : Text}

/-- The `Quoting` of the place at which the reader stands. -/
def Mode.quoting : Mode → Quoting
  | .blank | .word => .plain
  | .single => .single
  | .double => .double
  | .escaped => .escaped
  | .doubleEscaped => .doubleEscaped

/-- The runs from where the reader stands. Between words the first one has not begun; after a
backslash between double quotes it goes on with the backslash, which may have to be kept. -/
def Mode.runsOf : Mode → Text → List (List (Sign × Role))
  | .blank, text => runs (marked .plain text)
  | .doubleEscaped, text => runsWithin (marked .double (.char '\\' :: text))
  | mode, text => runsWithin (marked mode.quoting text)

/-- An unquoted blank separates words, and nothing is quoted behind it. -/
theorem next_and_role_of_isBlank (rest : Text) (h : isBlank s = true) :
    Quoting.plain.next s = .plain ∧ Quoting.plain.role s rest = .separator := by
  have hmem : s ∈ blanks := (mem_blanks_iff s).mpr h
  refine ⟨?_, by rw [Quoting.role, if_pos hmem]⟩
  simp only [blanks, List.mem_cons, List.not_mem_nil, or_false] at hmem
  rcases hmem with rfl | rfl | rfl | rfl <;> rfl

/-- An unquoted sign that begins a quotation or an escape is a mark. -/
theorem next_and_role_of_opens? (rest : Text) {mode : Mode} (h : opens? s = some mode) :
    Quoting.plain.next s = mode.quoting ∧ Quoting.plain.role s rest = .mark := by
  unfold opens? at h
  split at h <;> cases h <;> exact ⟨rfl, rfl⟩

/-- Any other unquoted sign is kept. -/
theorem next_and_role_of_isOrdinary (rest : Text) (hblank : ¬isBlank s = true)
    (hopens : opens? s = none) :
    Quoting.plain.next s = .plain ∧ Quoting.plain.role s rest = .kept := by
  have hmem : s ∉ blanks := mt (mem_blanks_iff s).mp hblank
  have hsingle : s ≠ .char '\'' := by rintro rfl; cases hopens
  have hdouble : s ≠ .char '"' := by rintro rfl; cases hopens
  have hbackslash : s ≠ .char '\\' := by rintro rfl; cases hopens
  simp [Quoting.next, Quoting.role, hmem, hsingle, hdouble, hbackslash]

/-- Behind a sign that begins a quotation or an escape, the reader is in a run. -/
theorem runsOf_of_opens? {mode : Mode} (h : opens? s = some mode) :
    mode.runsOf text = runsWithin (marked mode.quoting text) := by
  unfold opens? at h
  split at h <;> cases h <;> rfl

/-- **`readFrom` finds the runs without their marks.** The induction is along the reader. -/
theorem readFrom_eq (mode : Mode) (text : Text) :
    readFrom mode text = (mode.quoting.after text).finish ((mode.runsOf text).map kept) := by
  fun_induction readFrom mode text with
  | case1 | case2 | case3 | case4 | case5 | case6 => rfl
  | case7 s rest hblank ih =>
      obtain ⟨hnext, hrole⟩ := next_and_role_of_isBlank rest hblank
      simp only [ih, Mode.quoting, Mode.runsOf, after_cons, marked_cons, hnext, hrole,
        runs_separator]
  | case8 s rest hblank mode hopens ih =>
      obtain ⟨hnext, hrole⟩ := next_and_role_of_opens? rest hopens
      rw [ih, runsOf_of_opens? hopens, Mode.runsOf, marked_cons, hnext, hrole, map_kept_runs_mark,
        Mode.quoting, after_cons, hnext]
  | case9 s rest hblank hopens ih =>
      obtain ⟨hnext, hrole⟩ := next_and_role_of_isOrdinary rest hblank hopens
      simp only [ih, Quoting.map_finish, Mode.quoting, Mode.runsOf, after_cons, marked_cons, hnext,
        hrole, map_kept_runs_kept]
  | case10 s rest hblank ih =>
      obtain ⟨hnext, hrole⟩ := next_and_role_of_isBlank rest hblank
      simp only [ih, Quoting.map_finish, Mode.quoting, Mode.runsOf, after_cons, marked_cons, hnext,
        hrole, runsWithin_separator, List.map_cons]
      rfl
  | case11 s rest hblank mode hopens ih =>
      obtain ⟨hnext, hrole⟩ := next_and_role_of_opens? rest hopens
      rw [ih, runsOf_of_opens? hopens]
      show _ = (Quoting.plain.after (s :: rest)).finish
        ((runsWithin (marked .plain (s :: rest))).map kept)
      rw [after_cons, marked_cons, hnext, hrole, map_kept_runsWithin_mark]
  | case12 s rest hblank hopens ih =>
      obtain ⟨hnext, hrole⟩ := next_and_role_of_isOrdinary rest hblank hopens
      simp only [ih, Quoting.map_finish, Mode.quoting, Mode.runsOf, after_cons, marked_cons, hnext,
        hrole, map_kept_runsWithin_kept]
  | case13 rest ih =>
      simp only [ih, Mode.quoting, Mode.runsOf, after_cons, marked_cons, Quoting.next, Quoting.role,
        if_true, map_kept_runsWithin_mark]
  | case14 s rest hs ih =>
      simp only [ih, Quoting.map_finish, Mode.quoting, Mode.runsOf, after_cons, marked_cons,
        Quoting.next, Quoting.role, if_neg hs, map_kept_runsWithin_kept]
  | case15 rest ih =>
      simp only [ih, Mode.quoting, Mode.runsOf, after_cons, marked_cons, Quoting.next, Quoting.role,
        if_true, map_kept_runsWithin_mark]
  | case16 rest hne ih =>
      rw [ih]
      rfl
  | case17 s rest hquote hbackslash ih =>
      have hrole : Quoting.double.role s rest = .kept := by
        simp [Quoting.role, hquote, hbackslash]
      simp only [ih, Quoting.map_finish, Mode.quoting, Mode.runsOf, after_cons, marked_cons,
        Quoting.next, hrole, if_neg hquote, if_neg hbackslash, map_kept_runsWithin_kept]
  | case18 s rest ih =>
      simp only [ih, Quoting.map_finish, Mode.quoting, Mode.runsOf, after_cons, marked_cons,
        Quoting.next, Quoting.role, map_kept_runsWithin_kept]
  | case19 s rest hs ih =>
      have hmark : Quoting.double.role (.char '\\') (s :: rest) = .mark := by
        rcases hs with rfl | rfl <;> rfl
      rw [ih, Quoting.map_finish]
      show _ = (Quoting.double.after rest).finish
        ((runsWithin ((_, _) :: (s, .kept) :: marked .double rest)).map kept)
      rw [hmark, map_kept_runsWithin_mark, map_kept_runsWithin_kept]
      rfl
  | case20 s rest hs ih =>
      have hkept : Quoting.double.role (.char '\\') (s :: rest) = .kept := by
        simpa [Quoting.role] using hs
      rw [ih, Quoting.map_finish]
      show _ = (Quoting.double.after rest).finish
        ((runsWithin ((_, _) :: (s, .kept) :: marked .double rest)).map kept)
      rw [hkept, map_kept_runsWithin_kept, map_kept_runsWithin_kept]
      rfl

/-- **`split` gives the `runs` of a text without their marks**, unless it ends inside a quotation or
right after a backslash. -/
theorem split_eq (text : Text) :
    split text = (Quoting.plain.after text).finish ((runs (marked .plain text)).map kept) :=
  readFrom_eq .blank text

/-- `split` keeps the signs of a text that are `kept`, in their order. -/
theorem flatten_of_split {text : Text} {words : List Text} (h : split text = .ok words) :
    words.flatten = kept (marked .plain text) := by
  rw [split_eq, Quoting.finish] at h
  split at h
  · cases h
  · cases h
    exact flatten_map_kept_runs _

end Transcode.Shell.Words
