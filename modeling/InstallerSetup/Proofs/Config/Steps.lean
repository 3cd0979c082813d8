import InstallerSetup.Config.Migration
import InstallerSetup.Proofs.Except

/-!
# Migration step by step

Each step turns a document into one of the next version (`claims_of_step`), and there is a step from
every version that is supported (`exists_step`). So the steps reach the current version whenever
they are started (`migrateFrom_claims`), with a line in the log for each, and a document with a
supported version is brought up to date: neither the steps nor the shape of the document can fail
then (`migrate_of_migratable`).
-/

namespace InstallerSetup.Config

open InstallerSetup.Yaml (Tree)

/-! ## The version of a document -/

/-- The entries of a document claim a version, with or without a tag on it. -/
def Claims (version : Int) (entries : List (Tree × Tree)) : Prop :=
  ∃ value, Tree.lookup? entries "version" = some value ∧ value.untagged = .int version

/-- The version of a document stands under its key. -/
theorem claims_of_version? {tree : Tree} {found : Int} (version : version? tree = .ok found) :
    ∃ entries, tree = .mapping entries ∧ Claims found entries := by
  unfold version? at version
  split at version
  · next entries =>
      split at version
      · cases version
      · next value listed =>
          split at version
          · next number shape =>
              split at version
              · cases version
                exact ⟨entries, rfl, value, listed, shape⟩
              · cases version
          · cases version
  · cases version
  · cases version

theorem migratable?_eq_some_iff {found : Int} {version : Nat} :
    migratable? found = some version ↔
      found = version ∧ oldestVersion ≤ version ∧ version ≤ currentVersion := by
  simp only [migratable?, Option.filter_eq_some_iff, Bool.and_eq_true, decide_eq_true_eq]
  refine and_congr_left fun supported => ?_
  have narrow : version < 4294967296 := Nat.lt_of_le_of_lt supported.2 (by decide)
  split
  · next bounded =>
      rw [Option.some.injEq]
      omega
  · next outside =>
      simp only [reduceCtorEq, false_iff]
      rintro rfl
      unfold Attribute.wordLimit at outside
      omega

theorem migratable?_eq_none_iff {found : Int} :
    migratable? found = none ↔ found < oldestVersion ∨ currentVersion < found := by
  rw [Option.eq_none_iff_forall_ne_some]
  simp only [ne_eq, migratable?_eq_some_iff]
  constructor
  · intro outside
    have natural := outside found.toNat
    omega
  · rintro outside version ⟨rfl, supported⟩
    omega

/-! ## The steps -/

theorem claims_of_step {version : Nat} {step : List (Tree × Tree) → List (Tree × Tree)}
    (listed : (version, step) ∈ steps) (entries : List (Tree × Tree)) :
    Claims (version + 1 : Nat) (step entries) := by
  simp only [steps, List.mem_singleton, Prod.mk.injEq] at listed
  obtain ⟨rfl, rfl⟩ := listed
  exact ⟨.int 2, rfl, rfl⟩

/-- There is a step from each version that is not the current one yet. -/
theorem exists_step {version : Nat} (old : oldestVersion ≤ version)
    (behind : version < currentVersion) :
    ∃ step, (version, step) ∈ steps ∧
      steps.find? (fun step => step.1 == version) = some (version, step) := by
  obtain rfl : version = 1 := by
    unfold oldestVersion at old
    unfold currentVersion at behind
    omega
  exact ⟨fromVersion1, List.mem_cons_self, rfl⟩

theorem migrateFrom_of_current {found : Int} {entries : List (Tree × Tree)} :
    migrateFrom found currentVersion entries = .ok ([], entries) := by
  rw [migrateFrom, if_neg (Nat.lt_irrefl _)]

theorem migrateFrom_of_step {found : Int} {version : Nat} {entries : List (Tree × Tree)}
    {step : List (Tree × Tree) → List (Tree × Tree)} (behind : version < currentVersion)
    (first : steps.find? (fun step => step.1 == version) = some (version, step)) :
    migrateFrom found version entries = do
      let (log, migrated) ← migrateFrom found (version + 1) (step entries)
      return (migrationLine version :: log, migrated) := by
  rw [migrateFrom, if_pos behind]
  simp only [first]

/--
The steps from a version on end at the current one, and none of them is missing. Each writes a line,
and the document that comes out claims the current version.
-/
theorem migrateFrom_claims (found : Int) {version : Nat} {entries : List (Tree × Tree)}
    (old : oldestVersion ≤ version) (recent : version ≤ currentVersion)
    (claims : Claims version entries) :
    ∃ migrated, Claims currentVersion migrated ∧ migrateFrom found version entries =
      .ok ((List.range' version (currentVersion - version)).map migrationLine, migrated) := by
  -- the induction is on the number of steps that are left
  induction ahead : currentVersion - version generalizing version entries with
  | zero =>
      obtain rfl : version = currentVersion := by omega
      exact ⟨entries, claims, migrateFrom_of_current⟩
  | succ left ih =>
      have behind : version < currentVersion := by omega
      obtain ⟨step, listed, first⟩ := exists_step old behind
      obtain ⟨migrated, current, rest⟩ :=
        ih (by omega) behind (claims_of_step listed entries) (by omega)
      refine ⟨migrated, current, ?_⟩
      rw [migrateFrom_of_step behind first, rest]
      rfl

/-! ## A whole document -/

theorem migrate_of_version?_error {tree : Tree} {failure : Failure}
    (version : version? tree = .error failure) : migrate tree = .error failure := by
  unfold migrate
  rw [version]
  rfl

theorem migrate_of_unsupported {tree : Tree} {found : Int} (version : version? tree = .ok found)
    (outside : migratable? found = none) : migrate tree = .error (.unsupportedVersion found) := by
  unfold migrate
  rw [version]
  simp only [bind, Except.bind, outside]
  rfl

theorem migrate_of_supported {entries migrated : List (Tree × Tree)} {found : Int} {version : Nat}
    {log : Log} (claimed : version? (.mapping entries) = .ok found)
    (supported : migratable? found = some version)
    (steps : migrateFrom found version entries = .ok (log, migrated)) :
    migrate (.mapping entries) = .ok (log, .mapping migrated) := by
  unfold migrate
  rw [claimed]
  simp only [bind, Except.bind, supported, steps]
  rfl

/-- A document whose version is supported is brought up to the current one. -/
theorem migrate_of_migratable {tree : Tree} {found : Int} {version : Nat}
    (claimed : version? tree = .ok found) (supported : migratable? found = some version) :
    ∃ migrated, Claims currentVersion migrated ∧ migrate tree =
      .ok ((List.range' version (currentVersion - version)).map migrationLine,
        .mapping migrated) := by
  obtain ⟨rfl, old, recent⟩ := migratable?_eq_some_iff.1 supported
  obtain ⟨entries, rfl, claims⟩ := claims_of_version? claimed
  obtain ⟨migrated, current, steps⟩ := migrateFrom_claims version old recent claims
  exact ⟨migrated, current, migrate_of_supported claimed supported steps⟩

/-- Migration has one failure of its own, which is about a version that could be read. -/
theorem migrate_eq_error_iff {tree : Tree} {failure : Failure} :
    migrate tree = .error failure ↔
      version? tree = .error failure ∨
        ∃ n, version? tree = .ok n ∧ (n < oldestVersion ∨ currentVersion < n) ∧
          failure = .unsupportedVersion n := by
  cases claimed : version? tree with
  | error reported => simp [migrate_of_version?_error claimed]
  | ok n =>
      cases supported : migratable? n with
      | none =>
          have outside := migratable?_eq_none_iff.1 supported
          simp [migrate_of_unsupported claimed supported, outside, eq_comm]
      | some version =>
          obtain ⟨migrated, _, passed⟩ := migrate_of_migratable claimed supported
          have inside : ¬(n < oldestVersion ∨ currentVersion < n) := by
            rw [← migratable?_eq_none_iff, supported]
            nofun
          simp [passed, inside]

/-- A document that has been brought up to date claims the current version. -/
theorem version_of_migrate {tree migrated : Tree} {log : Log}
    (updated : migrate tree = .ok (log, migrated)) :
    ∃ entries value, migrated = .mapping entries ∧
      Tree.lookup? entries "version" = some value ∧ value.untagged = .int currentVersion := by
  cases claimed : version? tree with
  | error failure => cases (migrate_of_version?_error claimed).symm.trans updated
  | ok found =>
      cases supported : migratable? found with
      | none => cases (migrate_of_unsupported claimed supported).symm.trans updated
      | some version =>
          obtain ⟨entries, ⟨value, listed, shape⟩, passed⟩ :=
            migrate_of_migratable claimed supported
          cases passed.symm.trans updated
          exact ⟨entries, value, rfl, listed, shape⟩

/-- A document of the current version is passed on. -/
theorem migrate_of_version {tree : Tree} (version : version? tree = .ok currentVersion) :
    migrate tree = .ok ([], tree) := by
  obtain ⟨entries, rfl, _⟩ := claims_of_version? version
  exact migrate_of_supported version rfl migrateFrom_of_current

/-- A document of the oldest version takes one step. -/
theorem migrate_of_oldest {entries : List (Tree × Tree)}
    (version : version? (.mapping entries) = .ok oldestVersion) :
    migrate (.mapping entries) =
      .ok ([migrationLine oldestVersion], .mapping (fromVersion1 entries)) := by
  have supported : migratable? oldestVersion = some oldestVersion := rfl
  have first : steps.find? (fun step => step.1 == oldestVersion) =
      some (oldestVersion, fromVersion1) := rfl
  refine migrate_of_supported version supported ?_
  rw [migrateFrom_of_step (by decide) first]
  exact congrArg (· >>= _) migrateFrom_of_current

end InstallerSetup.Config
