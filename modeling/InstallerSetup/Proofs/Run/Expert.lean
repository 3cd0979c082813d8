import InstallerSetup.Proofs.Form.Expert
import InstallerSetup.Proofs.Run.Ending

/-!
# Runs in expert mode

A run in expert mode comes to the same as one in default mode that says yes at every gate: the same
document is written, and the same answers are refused.
-/

namespace InstallerSetup.Run

open Form (Answer Report)
open Form.Installer (answerGates)

variable {σ : Type} [Storage σ] {o : Options} {store : σ} {sink : Sink}

def inDefaultMode (o : Options) : Options := { o with expert := false }

theorem mirrors_start (expert : o.expert = true) (config : Config) :
    Form.Mirrors (.start config o.flags) (.start config (inDefaultMode o).flags) :=
  ⟨rfl, rfl, rfl, expert, rfl⟩

/--
What a run in expert mode comes to is what it comes to in default mode with the gates answered.
-/
theorem run_inDefaultMode (expert : o.expert = true) {answers : List Answer} {c : Config}
    {report : Report} (done : (run o store sink answers).result = .ok c)
    (held : (run o store sink answers).report = some report) (spent : report.remaining = []) :
    ∃ report',
      (run (inDefaultMode o) store sink (answerGates report.moments answers)).report =
        some report' ∧
      report'.remaining = [] ∧ report'.rejections = report.rejections ∧
      (run (inDefaultMode o) store sink (answerGates report.moments answers)).result = .ok c ∧
      (run (inDefaultMode o) store sink (answerGates report.moments answers)).store =
        (run o store sink answers).store ∧
      (run (inDefaultMode o) store sink (answerGates report.moments answers)).printed =
        (run o store sink answers).printed := by
  obtain ⟨loaded, catalog, phases, formDone, rfl, written⟩ := of_result_ok done
  have same := report_of_complete phases formDone sink
  obtain rfl := Option.some.inj (held.symm.trans same)
  obtain ⟨moments', t', ran', mirrors, rejections⟩ :=
    Form.Installer.run_answerGates (mirrors_start expert loaded) rfl formDone spent
  have phases' : Loaded (inDefaultMode o) store loaded catalog := ⟨phases.config, phases.catalog⟩
  obtain ⟨log, run_eq⟩ := run_of_replace_ok phases rfl formDone written sink
  have written' := written
  rw [← mirrors.complete catalog] at written'
  obtain ⟨log', run_eq'⟩ := run_of_replace_ok phases' ran' rfl written' sink
  rw [mirrors.complete catalog, mirrors.debug] at run_eq'
  rw [run_eq] at done
  rw [run_eq', run_eq]
  exact ⟨_, rfl, rfl, rejections, done, rfl, rfl⟩

/-! ### A first run in expert mode -/

def expertOptions : Options := ⟨"c.yaml", "p.yaml", true, false⟩

def bareStore : Storage.Memory :=
  Storage.Memory.empty.withFile "p.yaml" (Text.encode "\x7b\x7d")

/-- All sections are gone through, each behind some answers; one port is refused. -/
def thoroughAnswers (opening : List Answer) : List Answer :=
  [.text "d", .text "d", .text "d@d.dd", .accept, .choose 1] ++ List.replicate 3 (.text "1.1.1.1") ++
    opening ++ [.accept, .text "t"] ++ opening ++ List.replicate 4 .accept ++
    opening ++ List.replicate 3 .accept ++ opening ++ List.replicate 4 .accept ++
    opening ++ [.accept, .accept, .accept, .text "x", .text "25", .accept] ++ [.choose 1, .accept]

def thoroughDocument : Config :=
  { Config.initial with
    provider := some .onprem
    global := ⟨"d", "d", "d@d.dd", some .nodes10, .empty⟩
    onprem := ⟨"1.1.1.1", "1.1.1.1", "1.1.1.1", "", "t", .empty⟩
    smtp := { Config.initial.smtp with port := "25" }
    orch := ⟨[], Config.initialPassword, .empty⟩ }

theorem run_inDefaultMode_thorough :
    (run expertOptions bareStore .reliable (thoroughAnswers [])).result = .ok thoroughDocument ∧
      ∃ report',
        (run (inDefaultMode expertOptions) bareStore .reliable
          (thoroughAnswers [.confirm true])).report = some report' ∧
        report'.remaining = [] ∧ report'.rejections.length = 1 ∧
        (run (inDefaultMode expertOptions) bareStore .reliable
          (thoroughAnswers [.confirm true])).result = .ok thoroughDocument := by
  have loaded : Loaded expertOptions bareStore Config.initial .empty :=
    ⟨Except.eq_ok_of_toOption (by decide +kernel), Except.eq_ok_of_toOption (by decide +kernel)⟩
  have held : (course expertOptions Config.initial .empty (thoroughAnswers [])).result = .ok () :=
    Except.eq_ok_of_toOption (by decide +kernel)
  have done : (run expertOptions bareStore .reliable (thoroughAnswers [])).result =
      .ok thoroughDocument := result_of_course loaded rfl rfl held (by decide +kernel)
  have gated : answerGates
      (course expertOptions Config.initial .empty (thoroughAnswers [])).moments
      (thoroughAnswers []) = thoroughAnswers [.confirm true] := by decide +kernel
  have spent :
      (course expertOptions Config.initial .empty (thoroughAnswers [])).remaining = [] := by
    decide +kernel
  have refused :
      (course expertOptions Config.initial .empty (thoroughAnswers [])).rejections.length = 1 := by
    decide +kernel
  obtain ⟨report', report_eq, nothing, same, result_eq, _⟩ :=
    run_inDefaultMode rfl done (report_of_complete loaded held .reliable) spent
  change (run _ _ _ (answerGates (course _ _ _ _).moments _)).report = _ at report_eq
  change (run _ _ _ (answerGates (course _ _ _ _).moments _)).result = _ at result_eq
  rw [gated] at report_eq result_eq
  refine ⟨done, report', report_eq, nothing, ?_, result_eq⟩
  rw [same]
  exact refused

end InstallerSetup.Run
