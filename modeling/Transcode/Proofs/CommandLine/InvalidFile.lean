import Transcode.Proofs.CommandLine.Independence
import Transcode.Proofs.Config.Refusals

/-!
# Configuration files that are not valid

A configuration file that is not valid is a complaint, with exit status two. The faults of all files
that can be read are told in this way, but for documents that slip through: their faults are not
told from faults of the program, and stop the run.

## Main results

* `step_run_of_load_fault`, `step_run_of_load_eq_error` — a run whose file is at fault;
* `config_fault_escapes_iff` — the files whose faults stop a run.
-/

namespace Transcode.CommandLine

variable {s after : Session} {path : Value} {fault : Fault} {arguments : List String}
  {options : Options}

/-- The session after `Session.load` of a file at fault. -/
theorem eq_of_load_eq_error (h : (Session.load path).on s = (.error fault, after)) :
    Document.entriesAt s.files path = .error fault ∧
      after = { s with config := s.config.putAll (Config.ofEnvironment s.environment).settings } := by
  have hfault : Document.entriesAt s.files path = .error fault :=
    Session.load_eq_error_iff.mp (congrArg Prod.fst h)
  rw [Session.on_load, hfault] at h
  exact ⟨hfault, (congrArg Prod.snd h).symm⟩

/-- `run` with a file at fault stops there. It tells of what is wrong with the content, and of no
other fault. -/
theorem step_run_of_load_fault (hparse : Options.parse arguments = .ok options)
    (hload : (Session.load options.config).on s = (.error fault, after)) :
    s.step (.run arguments) =
      if fault.kind.isInvalidData then
        let told := complaint ("配置文件无效: " ++ fault.message)
        (⟨.ok (.exit 2), "", told⟩, { after with output := "", errors := told })
      else (⟨.error fault, "", ""⟩, { after with output := "", errors := "" }) := by
  obtain ⟨hfault, rfl⟩ := eq_of_load_eq_error hload
  rw [Session.step, Session.perform, Action.on_bind, run, hparse]
  dsimp only
  rw [carryOut_eq, Action.on_bind, on_loadConfig, hfault]
  cases hkind : fault.kind.isInvalidData with
  | true => simp [hkind, on_refuse, Session.printError]
  | false => simp [hkind]

/-- What such a run answers. -/
theorem step_run_of_load_eq_error (hparse : Options.parse arguments = .ok options)
    (hload : ((Session.load options.config).on s).1 = .error fault) :
    (s.step (.run arguments)).1 =
      if fault.kind.isInvalidData then
        ⟨.ok (.exit 2), "", complaint ("配置文件无效: " ++ fault.message)⟩
      else ⟨.error fault, "", ""⟩ := by
  rw [step_run_of_load_fault hparse (Prod.ext hload rfl)]
  split <;> rfl

/-- **The files whose faults stop a run** are those with `Document.SlipsThrough`: where the content
of a file can be read at all, its fault gets past the program exactly for these. Any other file is
loaded, or else the program tells what is wrong with it in one message, prints nothing, and ends
with status two. -/
theorem config_fault_escapes_iff {path : Text} {bytes : List UInt8}
    (hparse : Options.parse arguments = .ok options) (hpath : options.config = .text path)
    (hread : s.files.read path = .ok bytes) :
    ((∃ fault, ((Session.load (.text path)).on s).1 = .error fault ∧
          (s.step (.run arguments)).1 = ⟨.error fault, "", ""⟩) ↔
        Document.SlipsThrough bytes) ∧
      (¬Document.SlipsThrough bytes →
        (∃ config, ((Session.load (.text path)).on s).1 = .ok config) ∨
          ∃ fault, ((Session.load (.text path)).on s).1 = .error fault ∧
            (s.step (.run arguments)).1 =
              ⟨.ok (.exit 2), "", "错误: 配置文件无效: " ++ fault.message ++ "\n"⟩) := by
  have hslips := Document.exists_entriesAt_eq_error_iff hread
  simp only [← Session.load_eq_error_iff (s := s)] at hslips
  have hrun {fault : Fault} (hload : ((Session.load (.text path)).on s).1 = .error fault) :=
    step_run_of_load_eq_error hparse (hpath ▸ hload)
  rw [← hslips]
  constructor
  · constructor
    · rintro ⟨fault, hload, hreport⟩
      refine ⟨fault, hload, Bool.eq_false_iff.mpr fun hkind => ?_⟩
      rw [hrun hload, if_pos hkind] at hreport
      cases hreport
    · rintro ⟨fault, hload, hkind⟩
      exact ⟨fault, hload, by rw [hrun hload, hkind]; rfl⟩
  · intro hslips
    cases hload : ((Session.load (.text path)).on s).1 with
    | ok config => exact .inl ⟨config, rfl⟩
    | error fault =>
        have hkind : fault.kind.isInvalidData = true := by
          by_contra hkind
          exact hslips ⟨fault, hload, Bool.eq_false_iff.mpr hkind⟩
        refine .inr ⟨fault, rfl, ?_⟩
        rw [hrun hload, if_pos hkind, complaint, ← String.append_assoc]
        rfl

/-- A list of the name of a setting and a number is refused for the number. -/
theorem config_fault_escapes_iff_of_number :
    let bytes := Text.Utf8.encode (Value.list [.text "preset", .int 1]).write
    let s := Session.fresh (Files.place ⟨[], [], []⟩ "c.json" bytes) ""
    Options.parse ["--config=c.json"] = .ok { config := .text "c.json" } ∧
      s.files.read "c.json" = .ok bytes ∧ ¬Document.SlipsThrough bytes ∧
      ∃ fault, ((Session.load (.text "c.json")).on s).1 = .error fault ∧
        (s.step (.run ["--config=c.json"])).1 =
          ⟨.ok (.exit 2), "", "错误: 配置文件无效: " ++ fault.message ++ "\n"⟩ := by
  intro bytes s
  have hparse : Options.parse ["--config=c.json"] = .ok { config := .text "c.json" } := rfl
  have hread : s.files.read "c.json" = .ok bytes := rfl
  have hplain : (Value.list [.text "preset", .int 1]).IsPlain Value.maxDepth := by
    refine .list fun item hitem => ?_
    obtain rfl | rfl : item = .text "preset" ∨ item = .int 1 := by simpa using hitem
    · exact .text (Text.hasNoHalf_ofString _)
    · exact .int (by decide)
  have hslips : ¬Document.SlipsThrough bytes := by
    rw [Document.slipsThrough_iff_of_ok (Document.spelled_write hplain)]
    intro hmistaken
    obtain ⟨setting, hitem⟩ := hmistaken (.int 1) (by simp)
    cases hitem
  have hfault : ((Session.load (.text "c.json")).on s).1.isOk = false := by decide +kernel
  refine ⟨hparse, hread, hslips, ?_⟩
  obtain ⟨config, hload⟩ | hreported := (config_fault_escapes_iff hparse rfl hread).2 hslips
  · rw [hload] at hfault
    cases hfault
  · exact hreported

/-- An empty list has no unknown names, and its fault stops the run. -/
theorem not_reported_of_empty_list :
    let bytes := Text.Utf8.encode "[]".toList
    let s := Session.fresh (Files.place ⟨[], [], []⟩ "c.json" bytes) ""
    s.files.read "c.json" = .ok bytes ∧
      ∃ fault, ((Session.load (.text "c.json")).on s).1 = .error fault ∧
        (s.step (.run ["--config=c.json"])).1 = ⟨.error fault, "", ""⟩ := by
  intro bytes s
  have hparse : Options.parse ["--config=c.json"] = .ok { config := .text "c.json" } := rfl
  have hread : s.files.read "c.json" = .ok bytes := rfl
  have hwrite : "[]".toList = (Value.list []).write := by
    rw [Value.write, Value.writeAt]
    rfl
  have hspelled : Document.spelled bytes = .ok (.list []) := by
    show Document.spelled (Text.Utf8.encode "[]".toList) = _
    rw [hwrite]
    exact Document.spelled_write (.list fun item hitem => absurd hitem List.not_mem_nil)
  have hslips := Document.SlipsThrough.mistaken hspelled fun item hitem =>
    absurd hitem List.not_mem_nil
  obtain ⟨fault, hfault, hkind⟩ := (Document.exists_entriesAt_eq_error_iff hread).mpr hslips
  have hload : ((Session.load (.text "c.json")).on s).1 = .error fault :=
    Session.load_eq_error_iff.mpr hfault
  have hreport := step_run_of_load_eq_error hparse hload
  rw [hkind] at hreport
  exact ⟨hread, fault, hload, hreport⟩

end Transcode.CommandLine
