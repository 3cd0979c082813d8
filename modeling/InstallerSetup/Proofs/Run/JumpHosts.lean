import InstallerSetup.Proofs.Form.Accepted
import InstallerSetup.Proofs.Form.ListEntries
import InstallerSetup.Proofs.Run.Ending
import InstallerSetup.Proofs.Run.Written

/-!
# The jump hosts of a written document

A run shows the jump hosts of its document as one text and cuts that text into entries when the form
is done, whether the text was asked for or not. So an empty answer leaves the jump hosts as they
were, and a run that has no use for the section for AWS still cuts the entries of its list anew.
-/

namespace InstallerSetup

namespace Run

variable {σ : Type} [Storage σ] {o : Options} {store : σ} {sink : Sink}

namespace Success

variable {answers : List Form.Answer} {c loaded : Config} {catalog : Catalog}
  {report : Form.Report} {trace : List (Form.Settlement Form.Edit)}

theorem provider_eq (success : Success o store sink answers c loaded catalog report trace) :
    c.provider = report.state.config.provider := by
  rw [success.document, Form.State.provider_complete]

theorem jumpHosts_eq (success : Success o store sink answers c loaded catalog report trace) :
    c.aws.jumpHostWhitelist =
      Form.entriesOr loaded.aws.jumpHostWhitelist report.state.scratch.jumpHostWhitelist := by
  have kept : report.state.config.aws.jumpHostWhitelist = loaded.aws.jumpHostWhitelist :=
    (Form.Installer.faithful success.reached).jumpHosts
  rw [success.document, Form.State.aws_complete, Form.State.chosenJumpHosts_eq, kept]

/-- If another infrastructure is chosen, only the jump hosts of the section for AWS may change. -/
theorem aws_eq (success : Success o store sink answers c loaded catalog report trace)
    (other : c.provider ≠ some .aws) :
    c.aws = { loaded.aws with
      jumpHostWhitelist := Form.entriesOr loaded.aws.jumpHostWhitelist
        (",".intercalate loaded.aws.jumpHostWhitelist) } := by
  rw [success.provider_eq] at other
  have same (place : Form.Place) (own : place.isOf .aws = true) :
      place.content report.state = place.content (.start loaded o.flags) :=
    Form.Installer.content_of_ne success.reached other own
  have section_eq : report.state.config.aws = loaded.aws :=
    Form.aws_eq (Form.Installer.faithful success.reached).frame same
  have shown : report.state.scratch.jumpHostWhitelist =
      ",".intercalate loaded.aws.jumpHostWhitelist :=
    (Form.Edit.text.inj (same (.text .jumpHosts) rfl)).2
  rw [success.document, Form.State.aws_complete, Form.State.chosenJumpHosts_eq, section_eq, shown]

theorem onprem_eq (success : Success o store sink answers c loaded catalog report trace)
    (other : c.provider ≠ some .onprem) : c.onprem = loaded.onprem := by
  rw [success.provider_eq] at other
  rw [success.document, Form.State.onprem_complete]
  exact Form.onprem_eq (Form.Installer.faithful success.reached).frame fun place own =>
    Form.Installer.content_of_ne success.reached other own

end Success

/-! ## Jump hosts that are asked for -/

/--
If the jump hosts are asked for, the entries of the answer are written, unless the answer is empty:
then those of the loaded document stay. So an empty answer takes no jump hosts away.
-/
theorem jumpHosts_written_of_asked {answers : List Form.Answer} {c : Config}
    (done : (run o store sink answers).result = .ok c) :
    ∃ loaded catalog report trace, Success o store sink answers c loaded catalog report trace ∧
      ("Jump Host Whitelist" ∈ report.asked →
        ∃ step ∈ trace, step.field.info.title = "Jump Host Whitelist" ∧
          ∃ answer entered, step.given = [answer] ∧
            answer.text? (",".intercalate loaded.aws.jumpHostWhitelist) = some entered ∧
            c.aws.jumpHostWhitelist =
              (if entered = "" then loaded.aws.jumpHostWhitelist
                else Form.listEntries entered) ∧
            (c.aws.jumpHostWhitelist = Form.listEntries entered ↔
              entered ≠ "" ∨ loaded.aws.jumpHostWhitelist = [])) := by
  obtain ⟨loaded, catalog, report, trace, success⟩ := success_of_result_ok done
  refine ⟨loaded, catalog, report, trace, success, fun asked => ?_⟩
  rw [success.course] at asked
  obtain ⟨step, member, titled, answer, single, gives⟩ :=
    Form.Installer.answered_of_asked success.reached "Jump Host Whitelist" .jumpHosts
      (by decide +kernel) rfl asked
  refine ⟨step, member, titled, answer, _, single, gives, success.jumpHosts_eq, ?_⟩
  rw [success.jumpHosts_eq]
  exact Form.entriesOr_eq_listEntries_iff

/-! ### A document with two jump hosts in one entry -/

def crowdedText : String := "version: 2\naws:\n jumpHostWhitelist: ['a, b']\n"

def crowded : Config :=
  { Config.initial with aws := { Config.initial.aws with jumpHostWhitelist := ["a, b"] } }

def crowdedOptions : Options := ⟨"c.yaml", "p.yaml", false, false⟩

def crowdedStore : Storage.Memory :=
  (Storage.Memory.empty.withFile "p.yaml" (Text.encode "\x7b\x7d")).withFile "c.yaml"
    (Text.encode crowdedText)

theorem crowded_loaded : Loaded crowdedOptions crowdedStore crowded .empty where
  config := Except.eq_ok_of_toOption (by decide +kernel)
  catalog := Except.eq_ok_of_toOption (by decide +kernel)

def globalAnswers : List Form.Answer := [.text "d", .text "d", .text "d@d.dd", .accept]

/-- The optional sections are passed over, and no application is picked. -/
def closingAnswers : List Form.Answer := List.replicate 4 .accept ++ [.choose 1, .accept]

def namedDocument : Config :=
  { crowded with
    global := ⟨"d", "d", "d@d.dd", some .nodes10, .empty⟩
    orch := ⟨[], Config.initialPassword, .empty⟩ }

def enteringAnswers (entered : String) : List Form.Answer :=
  globalAnswers ++ [.choose 0, .text "us-west-2", .confirm true, .accept, .accept, .text entered] ++
    List.replicate 3 .accept ++ closingAnswers

def enteredDocument (jumpHosts : List String) : Config :=
  { namedDocument with
    provider := some .aws
    aws := { crowded.aws with region := "us-west-2", jumpHostWhitelist := jumpHosts } }

theorem jumpHosts_written_entering :
    (run crowdedOptions crowdedStore .reliable (enteringAnswers " c ,, d")).result =
        .ok (enteredDocument ["c", "d"]) ∧
      ∃ report trace,
        Success crowdedOptions crowdedStore .reliable (enteringAnswers " c ,, d")
          (enteredDocument ["c", "d"]) crowded .empty report trace ∧
        ∃ step ∈ trace, step.field.info.title = "Jump Host Whitelist" ∧
          ∃ answer entered, step.given = [answer] ∧ answer.text? "a, b" = some entered ∧
            Form.listEntries entered = ["c", "d"] := by
  have held : (course crowdedOptions crowded .empty (enteringAnswers " c ,, d")).result = .ok () :=
    Except.eq_ok_of_toOption (by decide +kernel)
  have done : (run crowdedOptions crowdedStore .reliable (enteringAnswers " c ,, d")).result =
      .ok (enteredDocument ["c", "d"]) :=
    result_of_course crowded_loaded rfl (by decide +kernel) held (by decide +kernel)
  have asked : "Jump Host Whitelist" ∈
      (course crowdedOptions crowded .empty (enteringAnswers " c ,, d")).asked := by
    decide +kernel
  obtain ⟨loaded, catalog, report, trace, success, written⟩ := jumpHosts_written_of_asked done
  obtain ⟨rfl, rfl⟩ := crowded_loaded.unique success.phases
  obtain ⟨step, member, titled, answer, entered, single, gives, same, _⟩ :=
    written (success.course ▸ asked)
  refine ⟨done, report, trace, success, step, member, titled, answer, entered, single, gives, ?_⟩
  split at same
  · exact absurd same (by decide)
  · exact same.symm

/-- An empty answer is accepted, and the list that it should have emptied is written again. -/
theorem jumpHosts_kept_by_empty_answer :
    Loaded crowdedOptions crowdedStore crowded .empty ∧
      (run crowdedOptions crowdedStore .reliable (enteringAnswers "")).result =
        .ok (enteredDocument ["a, b"]) ∧
      "Jump Host Whitelist" ∈ (course crowdedOptions crowded .empty (enteringAnswers "")).asked ∧
      (course crowdedOptions crowded .empty (enteringAnswers "")).state.scratch.jumpHostWhitelist =
        "" ∧
      Form.listEntries "" = [] :=
  ⟨crowded_loaded,
    result_of_course crowded_loaded rfl (by decide +kernel)
      (Except.eq_ok_of_toOption (by decide +kernel)) (by decide +kernel),
    by decide +kernel, by decide +kernel, by decide +kernel⟩

/-! ## The section of the infrastructure that was not chosen -/

/--
The section for machines on premises stays as it is if AWS is chosen. The other way round the jump
hosts are cut anew, so the section for AWS stays as it is only if all of them are plain entries.
-/
theorem unselected_section_written {answers : List Form.Answer} {c : Config}
    (done : (run o store sink answers).result = .ok c) :
    ∃ loaded catalog, Loaded o store loaded catalog ∧
      Storage.replace store o.configPath (Text.encode c.render) =
        .ok (run o store sink answers).store ∧
      (c.provider = some .aws → c.onprem = loaded.onprem) ∧
      (c.provider = some .onprem →
        c.aws = { loaded.aws with
          jumpHostWhitelist := Form.entriesOr loaded.aws.jumpHostWhitelist
            (",".intercalate loaded.aws.jumpHostWhitelist) } ∧
        (c.aws = loaded.aws ↔ loaded.aws.jumpHostWhitelist = [""] ∨
          ∀ entry ∈ loaded.aws.jumpHostWhitelist, Form.IsPlainEntry entry)) := by
  obtain ⟨loaded, catalog, report, trace, success⟩ := success_of_result_ok done
  refine ⟨loaded, catalog, success.phases, success.written, ?_, ?_⟩
  · intro chosen
    exact success.onprem_eq (by rw [chosen]; decide)
  · intro chosen
    have rewritten := success.aws_eq (by rw [chosen]; decide)
    refine ⟨rewritten, ?_⟩
    rw [← Form.entriesOr_intercalate_eq_iff, rewritten]
    constructor
    · exact congrArg Config.Aws.jumpHostWhitelist
    · intro same
      rw [same]

def leavingAnswers : List Form.Answer :=
  globalAnswers ++ [.choose 1] ++ List.replicate 3 (.text "1.1.1.1") ++ [.accept] ++ closingAnswers

def leftDocument : Config :=
  { namedDocument with
    provider := some .onprem
    aws := { crowded.aws with jumpHostWhitelist := ["a", "b"] }
    onprem := ⟨"1.1.1.1", "1.1.1.1", "1.1.1.1", "", "", .empty⟩ }

theorem run_leaving : (run crowdedOptions crowdedStore .reliable leavingAnswers).result =
    .ok leftDocument :=
  result_of_course crowded_loaded rfl (by decide +kernel)
    (Except.eq_ok_of_toOption (by decide +kernel)) (by decide +kernel)

theorem unselected_section_leaving :
    (run crowdedOptions crowdedStore .reliable leavingAnswers).result = .ok leftDocument ∧
      leftDocument.provider = some .onprem ∧
      leftDocument.aws = { crowded.aws with
        jumpHostWhitelist := Form.entriesOr crowded.aws.jumpHostWhitelist
          (",".intercalate crowded.aws.jumpHostWhitelist) } ∧
      ¬ ∀ entry ∈ crowded.aws.jumpHostWhitelist, Form.IsPlainEntry entry := by
  obtain ⟨loaded, catalog, phases, _, _, written⟩ := unselected_section_written run_leaving
  obtain ⟨rfl, _⟩ := crowded_loaded.unique phases
  obtain ⟨rewritten, same_iff⟩ := written rfl
  refine ⟨run_leaving, rfl, rewritten, fun plain => ?_⟩
  exact absurd (same_iff.2 (.inr plain)) (by decide +kernel)

/-- One entry becomes two, though AWS was not chosen and no jump hosts were asked for. -/
theorem unselected_section_changed :
    Loaded crowdedOptions crowdedStore crowded .empty ∧
      (run crowdedOptions crowdedStore .reliable leavingAnswers).result = .ok leftDocument ∧
      leftDocument.provider = some .onprem ∧ crowded.aws.jumpHostWhitelist = ["a, b"] ∧
      leftDocument.aws.jumpHostWhitelist = ["a", "b"] :=
  ⟨crowded_loaded, run_leaving, rfl, rfl, rfl⟩

end Run

end InstallerSetup
