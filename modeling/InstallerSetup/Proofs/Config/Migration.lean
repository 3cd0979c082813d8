import InstallerSetup.Proofs.Config.RoundTrip

/-!
# Which documents can be brought up to date

The version of a document decides what migration makes of it (`Migration`). A document is passed on,
brought up to date, or refused with a failure that names what is wrong with the version: there is
none, it is no integer of 64 bits with a sign, or there is no way from it to the current one. What
is passed on is of the current version, so migrating it again changes nothing.
-/

namespace InstallerSetup.Config

open InstallerSetup.Yaml (Tree)

/-! ## Trees without tags -/

theorem untagged_of_hasTag {tree : Tree} (tagless : tree.hasTag = false) :
    tree.untagged = tree := by
  cases tree with
  | tagged tag value => cases tagless
  | _ => rfl

theorem hasTag_of_lookup? {entries : List (Tree × Tree)} {key : String} {value : Tree}
    (tagless : (Tree.mapping entries).hasTag = false)
    (found : Tree.lookup? entries key = some value) : value.hasTag = false :=
  (Tree.entriesHaveTag_eq_false.1 tagless _ (mem_of_lookup? found)).2

/-! ## What becomes of a document -/

/-- What migration makes of a document without tags, by what stands under the key of the version. -/
inductive Migration : Tree → Except Failure (Log × Tree) → Prop where
  | null : Migration .null (.error .missingVersion)
  | unversioned {entries : List (Tree × Tree)}
      (absent : Tree.lookup? entries "version" = none) :
      Migration (.mapping entries) (.error .missingVersion)
  | noMapping {tree : Tree} (filled : tree ≠ .null) (other : ∀ entries, tree ≠ .mapping entries) :
      Migration tree (.error (.documentMalformed .topLevel))
  | noVersion {entries : List (Tree × Tree)} {value : Tree}
      (found : Tree.lookup? entries "version" = some value)
      (wide : ∀ n, value = .int n → versionLimit ≤ n) :
      Migration (.mapping entries) (.error (.documentMalformed .version))
  | unsupported {entries : List (Tree × Tree)} {n : Int}
      (found : Tree.lookup? entries "version" = some (.int n)) (narrow : n < versionLimit)
      (notOld : n ≠ 1) (notCurrent : n ≠ 2) :
      Migration (.mapping entries) (.error (.unsupportedVersion n))
  | updated {entries : List (Tree × Tree)}
      (found : Tree.lookup? entries "version" = some (.int 1)) :
      Migration (.mapping entries)
        (.ok ([Log.infoLine "Migrating config file from version 1 to 2"],
          .mapping (fromVersion1 entries)))
  | current {entries : List (Tree × Tree)}
      (found : Tree.lookup? entries "version" = some (.int 2)) :
      Migration (.mapping entries) (.ok ([], .mapping entries))

/-- The version of a mapping is read from the value under its key. -/
theorem version?_of_lookup? {entries : List (Tree × Tree)} {value : Tree}
    (tagless : (Tree.mapping entries).hasTag = false)
    (found : Tree.lookup? entries "version" = some value) :
    (∃ n, value = .int n ∧ n < versionLimit ∧ version? (.mapping entries) = .ok n) ∨
      (∀ n, value = .int n → versionLimit ≤ n) ∧
        version? (.mapping entries) = .error (.documentMalformed .version) := by
  rw [version?]
  simp only [found, untagged_of_hasTag (hasTag_of_lookup? tagless found)]
  cases value with
  | int n =>
      by_cases narrow : n < versionLimit
      · exact .inl ⟨n, rfl, narrow, if_pos narrow⟩
      · refine .inr ⟨fun m same => ?_, if_neg narrow⟩
        cases same
        exact Int.not_lt.1 narrow
  | _ => exact .inr ⟨nofun, rfl⟩

theorem migrate_of_first {entries : List (Tree × Tree)}
    (found : Tree.lookup? entries "version" = some (.int 1)) :
    migrate (.mapping entries) =
      .ok ([Log.infoLine "Migrating config file from version 1 to 2"],
        .mapping (fromVersion1 entries)) := by
  refine migrate_of_oldest ?_
  rw [version?]
  simp only [found]
  rfl

theorem migrate_of_current {entries : List (Tree × Tree)}
    (found : Tree.lookup? entries "version" = some (.int 2)) :
    migrate (.mapping entries) = .ok ([], .mapping entries) := by
  refine migrate_of_version ?_
  rw [version?]
  simp only [found]
  rfl

theorem migration_migrate {tree : Tree} (tagless : tree.hasTag = false) :
    Migration tree (migrate tree) := by
  cases tree with
  | null => exact .null
  | mapping entries =>
      cases found : Tree.lookup? entries "version" with
      | none =>
          have version : version? (.mapping entries) = .error .missingVersion := by
            rw [version?]
            simp only [found]
          rw [migrate_of_version?_error version]
          exact .unversioned found
      | some value =>
          rcases version?_of_lookup? tagless found with
            ⟨n, rfl, narrow, version⟩ | ⟨wide, version⟩
          · cases supported : migratable? n with
            | none =>
                have outside := migratable?_eq_none_iff.1 supported
                simp only [oldestVersion, currentVersion] at outside
                rw [migrate_of_unsupported version supported]
                exact .unsupported found narrow (by omega) (by omega)
            | some known =>
                obtain ⟨rfl, old, recent⟩ := migratable?_eq_some_iff.1 supported
                obtain rfl | rfl : known = 1 ∨ known = 2 := by
                  simp only [oldestVersion, currentVersion] at old recent
                  omega
                · rw [migrate_of_first found]
                  exact .updated found
                · rw [migrate_of_current found]
                  exact .current found
          · rw [migrate_of_version?_error version]
            exact .noVersion found wide
  | _ => exact .noMapping nofun nofun

section

variable {tree : Tree} (tagless : tree.hasTag = false)

include tagless

theorem migrate_eq_missing_iff :
    migrate tree = .error .missingVersion ↔
      tree = .null ∨
        ∃ entries, tree = .mapping entries ∧ Tree.lookup? entries "version" = none := by
  have migration := migration_migrate tagless
  generalize migrate tree = result at migration
  cases migration with
  | noMapping filled other => simp [filled, other]
  | _ => simp_all

theorem migrate_eq_malformed_iff {cause : Malformation} :
    migrate tree = .error (.documentMalformed cause) ↔
      cause = .topLevel ∧ tree ≠ .null ∧ (∀ entries, tree ≠ .mapping entries) ∨
        cause = .version ∧ ∃ entries value, tree = .mapping entries ∧
          Tree.lookup? entries "version" = some value ∧ ∀ n, value = .int n → versionLimit ≤ n := by
  have migration := migration_migrate tagless
  generalize migrate tree = result at migration
  cases migration with
  | noMapping filled other => simp [filled, other, eq_comm]
  | noVersion found wide =>
      simp only [Except.error.injEq, Failure.documentMalformed.injEq, reduceCtorEq, ne_eq,
        not_false_eq_true, Tree.mapping.injEq, forall_eq', and_false, exists_eq_left', false_or,
        exists_and_left, exists_eq_left', found, Option.some.injEq, eq_comm]
      simpa using fun _ => wide
  | unsupported found narrow => simpa [found] using fun _ => narrow
  | updated found | current found => simp [found, versionLimit]
  | _ => simp_all

theorem migrate_eq_unsupported_iff {n : Int} :
    migrate tree = .error (.unsupportedVersion n) ↔
      ∃ entries, tree = .mapping entries ∧ Tree.lookup? entries "version" = some (.int n) ∧
        n < versionLimit ∧ n ≠ 1 ∧ n ≠ 2 := by
  have migration := migration_migrate tagless
  generalize migrate tree = result at migration
  cases migration with
  | noVersion found wide => simpa [found] using fun same narrow => absurd (wide n same) (by omega)
  | unsupported found narrow notOld notCurrent =>
      simp only [Except.error.injEq, Failure.unsupportedVersion.injEq, Tree.mapping.injEq,
        exists_eq_left', found, Option.some.injEq, Tree.int.injEq]
      constructor
      · rintro rfl
        exact ⟨rfl, narrow, notOld, notCurrent⟩
      · exact And.left
  | updated found | current found => simp_all
  | _ => simp_all

theorem migrate_eq_ok_iff :
    (∃ result, migrate tree = .ok result) ↔
      ∃ entries, tree = .mapping entries ∧ (Tree.lookup? entries "version" = some (.int 1) ∨
        Tree.lookup? entries "version" = some (.int 2)) := by
  have migration := migration_migrate tagless
  generalize migrate tree = result at migration
  cases migration with
  | noVersion found wide =>
      simp only [found, reduceCtorEq, exists_false, Tree.mapping.injEq, exists_eq_left',
        Option.some.injEq, false_iff, not_or]
      exact ⟨fun same => absurd (wide 1 same) (by decide),
        fun same => absurd (wide 2 same) (by decide)⟩
  | _ => simp_all

/-- What comes out of migration is of the current version, and all of the document if that was. -/
theorem migrate_eq_ok {log : Log} {migrated : Tree} (passed : migrate tree = .ok (log, migrated)) :
    (∃ entries, migrated = .mapping entries ∧ Tree.lookup? entries "version" = some (.int 2)) ∧
      (tree.get? "version" = some (.int 2) → migrated = tree) := by
  have migration := migration_migrate tagless
  rw [passed] at migration
  cases migration with
  | updated found =>
      refine ⟨⟨_, rfl, rfl⟩, fun current => ?_⟩
      simp [Tree.get?, Tree.untagged, found] at current
  | current found => exact ⟨⟨_, rfl, found⟩, fun _ => rfl⟩

end

/-! ## Documents by their versions -/

/--
The version of a document without tags decides between the failures of migration and its success.
What is passed on is of the current version and is migrated into itself, and where no version can
be read, migration fails as reading the version does.
-/
theorem migrate_by_version {tree : Tree} (tagless : tree.hasTag = false) :
    ((migrate tree = .error .missingVersion ↔
          tree = .null ∨
            ∃ entries, tree = .mapping entries ∧ Tree.lookup? entries "version" = none) ∧
        (∀ cause, migrate tree = .error (.documentMalformed cause) ↔
          cause = .topLevel ∧ tree ≠ .null ∧ (∀ entries, tree ≠ .mapping entries) ∨
            cause = .version ∧ ∃ entries value, tree = .mapping entries ∧
              Tree.lookup? entries "version" = some value ∧
              ∀ n, value = .int n → versionLimit ≤ n) ∧
        (∀ n, migrate tree = .error (.unsupportedVersion n) ↔
          ∃ entries, tree = .mapping entries ∧ Tree.lookup? entries "version" = some (.int n) ∧
            n < versionLimit ∧ n ≠ 1 ∧ n ≠ 2) ∧
        ((∃ result, migrate tree = .ok result) ↔
          ∃ entries, tree = .mapping entries ∧
            (Tree.lookup? entries "version" = some (.int 1) ∨
              Tree.lookup? entries "version" = some (.int 2)))) ∧
      (∀ log migrated, migrate tree = .ok (log, migrated) →
        (∃ entries, migrated = .mapping entries ∧
            Tree.lookup? entries "version" = some (.int 2)) ∧
          (tree.get? "version" = some (.int 2) → migrated = tree) ∧
          migrate migrated = .ok ([], migrated)) ∧
      (∀ failure, version? tree = .error failure → migrate tree = .error failure) ∧
      ∀ failure, migrate tree = .error failure →
        version? tree = .error failure ∨
          ∃ n, version? tree = .ok n ∧ failure = .unsupportedVersion n := by
  refine ⟨⟨migrate_eq_missing_iff tagless, fun _ => migrate_eq_malformed_iff tagless,
    fun _ => migrate_eq_unsupported_iff tagless, migrate_eq_ok_iff tagless⟩, ?_,
    fun _ => migrate_of_version?_error, ?_⟩
  · intro log migrated passed
    obtain ⟨⟨entries, rfl, found⟩, same⟩ := migrate_eq_ok tagless passed
    exact ⟨⟨entries, rfl, found⟩, same, migrate_of_current found⟩
  · intro failure refused
    exact (migrate_eq_error_iff.1 refused).imp_right fun ⟨n, claimed, _, same⟩ => ⟨n, claimed, same⟩

def versionTree (n : Int) : Tree :=
  .mapping [(.string "version", .int n)]

theorem migrate_by_version_of_integers :
    (versionTree 0).hasTag = false ∧
      migrate (versionTree 0) = .error (.unsupportedVersion 0) ∧
      (versionTree 1).hasTag = false ∧
      ∃ result, migrate (versionTree 1) = .ok result := by
  refine ⟨rfl, ?_, rfl, ?_⟩
  · exact ((migrate_by_version rfl).1.2.2.1 0).2 ⟨_, rfl, rfl, by decide, by decide, by decide⟩
  · exact (migrate_by_version rfl).1.2.2.2.2 ⟨_, rfl, .inl rfl⟩

/-- An integer can be read that is no version, and that migration takes for no integer. -/
theorem migrate_wide_version :
    Tree.ofText? "version: 9223372036854775808\n" = .ok (versionTree 9223372036854775808) ∧
      (versionTree 9223372036854775808).hasTag = false ∧
      migrate (versionTree 9223372036854775808) = .error (.documentMalformed .version) ∧
      (Failure.documentMalformed .version).message =
        "failed to decode config file: version is not an integer in config file" :=
  ⟨Except.eq_ok_of_toOption (by decide +kernel), rfl, rfl, by decide +kernel⟩

end InstallerSetup.Config
