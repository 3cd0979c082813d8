import InstallerSetup.Config.Check
import InstallerSetup.Proofs.Except
import Mathlib.Logic.Unique

/-!
# What it means for a document to pass its check

The check stops at the first refusal, so a document passes exactly if no finding on it is a refusal.
-/

namespace InstallerSetup.Config

theorem firstRefusal_eq_ok_iff {findings : List Finding} :
    firstRefusal findings = .ok () ↔ ∀ finding ∈ findings, finding.verdict = .ok () := by
  induction findings with
  | nil => simp [firstRefusal]
  | cons finding rest ih =>
      rw [firstRefusal, List.forall_mem_cons]
      cases verdict : finding.verdict with
      | ok _ => simp [ih]
      | error refusal => simp

def infrastructureFindings (c : Config) : Provider → List Finding
  | .aws => awsFindings c.aws
  | .onprem => onpremFindings c.onprem

theorem check_eq_ok_iff {c : Config} :
    c.check = .ok () ↔
      (∀ finding ∈ globalFindings c.global, finding.verdict = .ok ()) ∧
        c.global.scale.isSome = true ∧
        (∃ p, c.provider = some p ∧
          ∀ finding ∈ c.infrastructureFindings p, finding.verdict = .ok ()) ∧
        ∀ finding ∈ commonFindings c, finding.verdict = .ok () := by
  unfold check
  simp only [Except.bind_eq_ok_iff, Unique.exists_iff, PUnit.default_eq_unit,
    firstRefusal_eq_ok_iff]
  refine and_congr_right fun _ => ?_
  cases c.global.scale with
  | none => simp [Except.bind_eq_ok_iff]
  | some scale =>
      cases c.provider with
      | none => simp [Except.bind_eq_ok_iff]
      | some chosen =>
          cases chosen <;>
            simp [Except.bind_eq_ok_iff, Unique.exists_iff, firstRefusal_eq_ok_iff,
              infrastructureFindings]

end InstallerSetup.Config
