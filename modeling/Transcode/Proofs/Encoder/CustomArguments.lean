import Transcode.Proofs.Session.Presets
import Transcode.Proofs.Shell.Reading

/-!
# Custom arguments

A custom preset compiles to the words of its arguments, all behind the input, and compiling it never
faults. What the words are is told by reading the arguments from left to right: each run of signs
between unquoted blanks is a word, and together the words hold every sign but the unquoted blanks,
the quotation marks around quotations, and the backslashes that escape something.

If the arguments end inside a quotation or right after a backslash, there are no words, and a
warning is left in the log. That is the only record that compiling leaves.

## Main results

* `compile_custom` — what a custom preset compiles to, and whether it is warned of;
* `Session.compile_conserves_arguments` — the same in a session, word by word.
-/

namespace Transcode

open Shell (Quoting Role marked kept runs)

/-- `Preset.compile` of a custom preset gives its runs without their marks, if the reading ends
unquoted. -/
theorem Preset.compile_custom (text : Text) :
    (Preset.custom (some text)).compile =
      match (Quoting.plain.after text).fault? with
      | some fault => .unsplit text fault
      | none => .arguments ⟨[], (runs (marked .plain text)).map kept⟩ := by
  rw [compile, Shell.Words.split_eq, Quoting.finish]
  cases (Quoting.plain.after text).fault? <;> rfl

namespace Session

/-- **Custom arguments are conserved.** `compile` of them never faults and puts nothing in front of
the input. If the reading ends quoted or escaped, there are no words, and all that happens is one
warning. Otherwise nothing happens, there is one word for each run of signs between unquoted blanks,
and the words one after another are the arguments without unquoted blanks and marks. -/
theorem compile_conserves_arguments (text : Text) (s : Session) :
    ∃ words, ((compile (.custom (some text))).on s).1 = .ok ⟨[], words⟩ ∧
      (Quoting.plain.after text ≠ .plain →
        words = [] ∧ ∃ fault, (Quoting.plain.after text).fault? = some fault ∧
          ((compile (.custom (some text))).on s).2 =
            log ⟨Log.Level.warning, "ffmpeg_preset.preset.compiler", unsplitNote text fault⟩ s) ∧
      (Quoting.plain.after text = .plain →
        ((compile (.custom (some text))).on s).2 = s ∧
        words.length = (runs (marked .plain text)).length ∧
        words = (runs (marked .plain text)).map kept ∧
        words.flatten = kept (marked .plain text)) := by
  rw [on_compile, Preset.compile_custom]
  by_cases hplain : Quoting.plain.after text = .plain
  · refine ⟨(runs (marked .plain text)).map kept, ?_, absurd hplain, fun _ => ⟨?_, ?_, rfl, ?_⟩⟩
    · rw [hplain]
      rfl
    · rw [hplain]
      rfl
    · rw [List.length_map]
    · exact Shell.flatten_map_kept_runs _
  · obtain ⟨fault, hfault⟩ : ∃ fault, (Quoting.plain.after text).fault? = some fault := by
      cases hafter : Quoting.plain.after text
      case plain => exact absurd hafter hplain
      all_goals exact ⟨_, rfl⟩
    rw [hfault]
    exact ⟨[], rfl, fun _ => ⟨rfl, fault, rfl, rfl⟩, fun h => absurd h hplain⟩

/-- An escaped blank, an empty quotation, and two backslashes between double quotes of which one
escapes something; and a quotation that is not closed. -/
theorem compile_conserves_arguments_of_escapes :
    let text : Text := "a\\ b '' \t\"c\\\"d\\e\""
    let pieces : List Text := ["a b", "", "c\"d\\e"]
    let unclosed : Text := "a \"b c"
    let s := fresh ⟨[], [], []⟩ ""
    (∃ words, ((compile (.custom (some text))).on s).1 = .ok ⟨[], words⟩ ∧
      ((compile (.custom (some text))).on s).2 = s ∧ words = pieces) ∧
    Quoting.plain.after unclosed = .double ∧
      ((compile (.custom (some unclosed))).on s).1 = .ok ⟨[], []⟩ ∧
      ((compile (.custom (some unclosed))).on s).2 =
        log ⟨Log.Level.warning, "ffmpeg_preset.preset.compiler",
          unsplitNote unclosed .unclosedQuote⟩ s := by
  intro text pieces unclosed s
  have hplain : Quoting.plain.after text = .plain := by decide
  have hdouble : Quoting.plain.after unclosed = .double := by decide
  obtain ⟨words, hok, -, hwords⟩ := compile_conserves_arguments text s
  obtain ⟨hkeeps, -, hruns, -⟩ := hwords hplain
  have hthree : (runs (marked .plain text)).map kept = pieces := by decide
  refine ⟨⟨words, hok, hkeeps, hruns.trans hthree⟩, hdouble, ?_⟩
  obtain ⟨none, hok, hwarned, -⟩ := compile_conserves_arguments unclosed s
  obtain ⟨rfl, fault, hfault, hafter⟩ := hwarned (by rw [hdouble]; decide)
  rw [hdouble] at hfault
  cases hfault
  exact ⟨hok, hafter⟩

end Session

end Transcode
