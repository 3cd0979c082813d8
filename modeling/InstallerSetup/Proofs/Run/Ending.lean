import InstallerSetup.Proofs.Run.Phases
import InstallerSetup.Storage.Memory

/-!
# How a run ends

With files in memory a run ends in exactly one of five ways, and the first phase that fails decides
which (`Way.Taken`). In all but the last nothing is written or printed (`Way.Leaves`); in the last
one the document is the only file that changes, and it is printed if that was asked for.
-/

namespace InstallerSetup

/-! ## Exit codes -/

namespace Config

open Yaml (Mismatch Tree)

theorem exitCode_of_version? {tree : Tree} {failure : Failure}
    (fails : version? tree = .error failure) : failure.exitCode = 3 := by
  unfold version? at fails
  split at fails
  · split at fails
    · cases fails
      rfl
    · split at fails
      · split at fails
        · cases fails
        · cases fails
          rfl
      · cases fails
        rfl
  · cases fails
    rfl
  · cases fails
    rfl

theorem exitCode_of_migrate {tree : Tree} {failure : Failure}
    (fails : migrate tree = .error failure) : failure.exitCode = 3 := by
  rcases migrate_eq_error_iff.1 fails with unread | ⟨_, _, _, rfl⟩
  · exact exitCode_of_version? unread
  · rfl

theorem exitCode_of_parse {text : String} {failure : Failure}
    (fails : (parse text).2 = .error failure) : failure.exitCode = 3 := by
  unfold parse at fails
  split at fails
  · cases fails
    rfl
  · next tree _ =>
      split at fails
      · next other broken =>
          cases fails
          exact exitCode_of_migrate broken
      · next migrated _ =>
          change ofTree migrated = .error failure at fails
          unfold ofTree at fails
          split at fails
          · cases fails
          · cases fails
            rfl

end Config

theorem Failure.OfForm.exitCode {failure : Failure} (kind : failure.OfForm) :
    failure.exitCode = 4 := by
  rcases kind with rfl | ⟨reason, rfl⟩
  · rfl
  · rfl

/-! ## Files in memory -/

namespace Storage.Memory

variable {m : Memory} {path : String} {content : List UInt8}

theorem content?_withFile : (m.withFile path content).content? path = some content := by
  simp [content?, withFile]

theorem content?_withFile_of_eq {other : String} (same : components other = components path) :
    (m.withFile path content).content? other = some content := by
  unfold content?
  rw [same]
  exact content?_withFile

theorem content?_withFile_of_ne {other : String} (different : components other ≠ components path) :
    (m.withFile path content).content? other = m.content? other := by
  have apart : (components path == components other) = false := beq_false_of_ne different.symm
  simp [content?, withFile, apart]

theorem replace_of_readOnly (closed : m.isReadOnly path = true) (content : List UInt8) :
    ∃ fault, Storage.replace m path content = .error fault :=
  ⟨_, if_pos closed⟩

theorem replace_of_not_readOnly (writable : m.isReadOnly path = false) :
    Storage.replace m path content =
      .ok { m.withFile path content with writes := m.writes + 1 } :=
  if_neg (Bool.eq_false_iff.1 writable)

theorem read_of_absent (absent : m.content? path = none) :
    ∃ fault, Storage.read m path = .error fault ∧ fault.kind = .notFound := by
  refine ⟨⟨.notFound, "File not found: " ++ path⟩, ?_, rfl⟩
  change read m path = _
  unfold read
  rw [absent]

end Storage.Memory

namespace Run

open Storage (Memory)

theorem exitCode_of_loadConfig {path : String} {content : Except Storage.Fault String}
    {failure : Failure} (fails : (loadConfig path content).2 = .error failure) :
    failure.exitCode = 3 := by
  rw [snd_loadConfig] at fails
  split at fails
  · split at fails
    · cases fails
    · cases fails
      rfl
  · exact Config.exitCode_of_parse fails

/-- A document that is missing does not make a run fail. -/
theorem isSome_of_loadConfig {m : Memory} {path : String} {failure : Failure}
    (fails : (loadConfig path (Storage.read m path)).2 = .error failure) :
    (m.content? path).isSome = true := by
  cases absent : m.content? path with
  | some content => rfl
  | none =>
      obtain ⟨fault, read, kind⟩ := Memory.read_of_absent absent
      rw [read, snd_loadConfig] at fails
      simp only [kind, if_pos] at fails
      cases fails

theorem exitCode_of_loadCatalog {path : String} {content : Except Storage.Fault String}
    {failure : Failure} (fails : (loadCatalog path content).2 = .error failure) :
    failure.exitCode = 2 := by
  unfold loadCatalog at fails
  split at fails
  · cases fails
    rfl
  · split at fails
    · next other broken =>
        cases fails
        unfold Catalog.ofText at broken
        split at broken
        · cases broken
        · cases broken
          rfl
    · cases fails

/-! ## The five ways -/

/-- The ways in which a run can end. -/
inductive Way where
  | badDocument (failure : Failure)
  | badCatalog (failure : Failure)
  | formFailed (failure : Failure)
  | unwritable
  | written (document : Config)

def answering (answers : List Form.Answer) (form : Form) (s : Form.State) (catalog : Catalog) :
    Form.Report :=
  Form.run catalog form s answers

def course (o : Options) (config : Config) (catalog : Catalog) (answers : List Form.Answer) :
    Form.Report :=
  answering answers Form.installer (.start config o.flags) catalog

namespace Way

/-- A way is taken if its phase fails after all earlier ones succeeded, the last if none fails. -/
def Taken (o : Options) (m : Memory) (answers : List Form.Answer) : Way → Prop
  | badDocument failure =>
      (loadConfig o.configPath (Storage.read m o.configPath)).2 = .error failure
  | badCatalog failure =>
      ∃ config, (loadConfig o.configPath (Storage.read m o.configPath)).2 = .ok config ∧
        (loadCatalog o.packagePath (Storage.read m o.packagePath)).2 = .error failure
  | formFailed failure =>
      ∃ config catalog, Loaded o m config catalog ∧
        (course o config catalog answers).result = .error failure
  | unwritable =>
      ∃ config catalog, Loaded o m config catalog ∧
        (course o config catalog answers).result = .ok () ∧ m.isReadOnly o.configPath = true
  | written document =>
      ∃ config catalog, Loaded o m config catalog ∧
        (course o config catalog answers).result = .ok () ∧ m.isReadOnly o.configPath = false ∧
        document = ((course o config catalog answers).state.complete catalog).config

def of (o : Options) (m : Memory) (answers : List Form.Answer) : Way :=
  match (loadConfig o.configPath (Storage.read m o.configPath)).2 with
  | .error failure => badDocument failure
  | .ok config =>
      match (loadCatalog o.packagePath (Storage.read m o.packagePath)).2 with
      | .error failure => badCatalog failure
      | .ok catalog =>
          match (course o config catalog answers).result with
          | .error failure => formFailed failure
          | .ok () =>
              if m.isReadOnly o.configPath then unwritable
              else written ((course o config catalog answers).state.complete catalog).config

theorem taken_of (o : Options) (m : Memory) (answers : List Form.Answer) :
    (of o m answers).Taken o m answers := by
  unfold of
  split
  · next failure fails => exact fails
  · next config document =>
      split
      · next failure fails => exact ⟨config, document, fails⟩
      · next catalog found =>
          split
          · next failure fails => exact ⟨config, catalog, ⟨document, found⟩, fails⟩
          · next done =>
              split
              · next closed => exact ⟨config, catalog, ⟨document, found⟩, done, closed⟩
              · next writable =>
                  exact ⟨config, catalog, ⟨document, found⟩, done,
                    Bool.eq_false_iff.2 writable, rfl⟩

theorem eq_of_taken {o : Options} {m : Memory} {answers : List Form.Answer} {way : Way}
    (taken : way.Taken o m answers) : way = of o m answers := by
  unfold of
  cases way with
  | badDocument failure =>
      change (loadConfig o.configPath (Storage.read m o.configPath)).2 = .error failure at taken
      rw [taken]
  | badCatalog failure =>
      obtain ⟨config, document, fails⟩ := taken
      simp only [document, fails]
  | formFailed failure =>
      obtain ⟨config, catalog, ⟨document, found⟩, fails⟩ := taken
      simp only [document, found, fails]
  | unwritable =>
      obtain ⟨config, catalog, ⟨document, found⟩, done, closed⟩ := taken
      simp only [document, found, done, closed, if_true]
  | written document =>
      obtain ⟨config, catalog, ⟨document, found⟩, done, writable, rfl⟩ := taken
      simp [document, found, done, writable]

end Way

/-- The form is not held: the course of the run is the same however it would be. -/
def Unasked (o : Options) (m : Memory) (sink : Sink) (outcome : Outcome Memory) : Prop :=
  outcome.report = none ∧ ∀ hold, runWith o m sink hold = outcome

def Untouched (m : Memory) (outcome : Outcome Memory) : Prop :=
  outcome.store = m ∧ outcome.printed = ""

/-- One file has been written, and printed on demand. -/
structure Wrote (o : Options) (m : Memory) (sink : Sink) (document : Config)
    (outcome : Outcome Memory) : Prop where
  writes : outcome.store.writes = m.writes + 1
  readOnly : outcome.store.readOnly = m.readOnly
  content : outcome.store.content? o.configPath = some (Text.encode document.render)
  others : ∀ path, Storage.components path ≠ Storage.components o.configPath →
    outcome.store.content? path = m.content? path
  quiet : o.debug = false → outcome.printed = "" ∧ outcome.result = .ok document
  printed : o.debug = true → sink.writeFault = none → sink.flushFault = none →
    outcome.store.content? o.configPath = some (Text.encode outcome.printed) ∧
      outcome.result = .ok document
  unprinted : o.debug = true → sink.writeFault.isSome = true ∨ sink.flushFault.isSome = true →
    ∃ error, outcome.result = .error error ∧ error.exitCode = 1

/-- What a run leaves behind that ends in a way. -/
def Way.Leaves (o : Options) (m : Memory) (sink : Sink) (outcome : Outcome Memory) : Way → Prop
  | badDocument failure =>
      outcome.result = .error (.failure failure) ∧ failure.exitCode = 3 ∧
        (m.content? o.configPath).isSome = true ∧ Unasked o m sink outcome ∧ Untouched m outcome
  | badCatalog failure =>
      outcome.result = .error (.failure failure) ∧ failure.exitCode = 2 ∧
        Unasked o m sink outcome ∧ Untouched m outcome
  | formFailed failure =>
      outcome.result = .error (.failure failure) ∧ failure.OfForm ∧ failure.exitCode = 4 ∧
        Untouched m outcome
  | unwritable =>
      ∃ fault, outcome.result = .error (.failure (.unwritable o.configPath fault)) ∧
        (Failure.unwritable o.configPath fault).exitCode = 5 ∧ Untouched m outcome
  | written document => Wrote o m sink document outcome

section

variable {o : Options} {m : Memory} {sink : Sink} {answers : List Form.Answer}

theorem leaves_badDocument {failure : Failure}
    (taken : (Way.badDocument failure).Taken o m answers) :
    (Way.badDocument failure).Leaves o m sink (run o m sink answers) := by
  obtain ⟨log, same⟩ := runWith_of_loadConfig taken sink
  unfold run
  rw [same]
  exact ⟨rfl, exitCode_of_loadConfig taken, isSome_of_loadConfig taken, ⟨rfl, same⟩, rfl, rfl⟩

theorem leaves_badCatalog {failure : Failure}
    (taken : (Way.badCatalog failure).Taken o m answers) :
    (Way.badCatalog failure).Leaves o m sink (run o m sink answers) := by
  obtain ⟨config, document, fails⟩ := taken
  obtain ⟨log, same⟩ := runWith_of_loadCatalog document fails sink
  unfold run
  rw [same]
  exact ⟨rfl, exitCode_of_loadCatalog fails, ⟨rfl, same⟩, rfl, rfl⟩

theorem leaves_formFailed {failure : Failure}
    (taken : (Way.formFailed failure).Taken o m answers) :
    (Way.formFailed failure).Leaves o m sink (run o m sink answers) := by
  obtain ⟨config, catalog, loaded, fails⟩ := taken
  have kind := Form.failure_of_run fails
  obtain ⟨log, same⟩ := run_of_form_error loaded fails sink
  rw [same]
  exact ⟨rfl, kind, kind.exitCode, rfl, rfl⟩

theorem leaves_unwritable (taken : Way.unwritable.Taken o m answers) :
    Way.unwritable.Leaves o m sink (run o m sink answers) := by
  obtain ⟨config, catalog, loaded, done, closed⟩ := taken
  obtain ⟨fault, refused⟩ := Memory.replace_of_readOnly closed
    (Text.encode ((course o config catalog answers).state.complete catalog).config.render)
  obtain ⟨log, same⟩ := run_of_replace_error loaded rfl done refused sink
  rw [same]
  exact ⟨fault, rfl, rfl, rfl, rfl⟩

/-- The form leaves the switch alone that asks for printing. -/
theorem debug_of_course {config : Config} {catalog : Catalog}
    (done : (course o config catalog answers).result = .ok ()) :
    (course o config catalog answers).state.flags.debug = o.debug := by
  obtain ⟨trace, reached⟩ := Form.Installer.reaches_end done
  exact (Form.Installer.faithful reached).debug

theorem fault_of_print (faulty : sink.writeFault.isSome = true ∨ sink.flushFault.isSome = true)
    (text : String) : ∃ cause, (sink.print text).2 = some cause := by
  unfold Sink.print
  cases written : sink.writeFault with
  | some fault => exact ⟨fault, rfl⟩
  | none =>
      rcases faulty with impossible | flushed
      · rw [written] at impossible
        cases impossible
      · exact Option.isSome_iff_exists.1 flushed

theorem leaves_written {document : Config}
    (taken : (Way.written document).Taken o m answers) :
    (Way.written document).Leaves o m sink (run o m sink answers) := by
  obtain ⟨config, catalog, loaded, done, writable, rfl⟩ := taken
  have debug := debug_of_course done
  obtain ⟨log, same⟩ := runWith_of_complete loaded (answering answers) done sink
  obtain ⟨log', same'⟩ := conclude_of_replace_ok (Memory.replace_of_not_readOnly writable) sink log
  change Wrote o m sink _ (runWith o m sink (answering answers))
  rw [same]
  change Wrote o m sink _ (conclude o m sink catalog log (course o config catalog answers))
  rw [same', debug]
  constructor
  case writes => rfl
  case readOnly => rfl
  case content => exact Memory.content?_withFile
  case others => exact fun path different => Memory.content?_withFile_of_ne different
  case quiet =>
    intro silent
    rw [silent]
    exact ⟨rfl, rfl⟩
  case printed =>
    intro loud noWriteFault noFlushFault
    have through : echo o.debug sink
        ((course o config catalog answers).state.complete catalog).config =
          (((course o config catalog answers).state.complete catalog).config.render, none) := by
      rw [loud]
      simp [echo, Sink.print, noWriteFault, noFlushFault]
    rw [through]
    exact ⟨Memory.content?_withFile, rfl⟩
  case unprinted =>
    intro loud faulty
    rw [loud]
    obtain ⟨cause, fault⟩ := fault_of_print faulty
      ((course o config catalog answers).state.complete catalog).config.render
    refine ⟨.unprinted cause, ?_, rfl⟩
    change echoed _ (sink.print _).2 = _
    rw [fault]
    rfl

/-- A run that prints nothing comes to the document that its form leaves. -/
theorem result_of_course {config document : Config} {catalog : Catalog}
    (loaded : Loaded o m config catalog) (silent : o.debug = false)
    (writable : m.isReadOnly o.configPath = false)
    (done : (course o config catalog answers).result = .ok ())
    (same : ((course o config catalog answers).state.complete catalog).config = document) :
    (run o m sink answers).result = .ok document := by
  have taken : (Way.written document).Taken o m answers :=
    ⟨config, catalog, loaded, done, writable, same.symm⟩
  exact ((leaves_written taken).quiet silent).2

/--
A run with files in memory ends in exactly one way, which the first phase that fails decides, and it
leaves behind what belongs to that way.
-/
theorem run_ends_in_one_way (o : Options) (m : Memory) (sink : Sink)
    (answers : List Form.Answer) :
    ∃! way : Way, way.Taken o m answers ∧ way.Leaves o m sink (run o m sink answers) := by
  have leaves : ∀ way : Way, way.Taken o m answers →
      way.Leaves o m sink (run o m sink answers) := by
    intro way taken
    cases way with
    | badDocument failure => exact leaves_badDocument taken
    | badCatalog failure => exact leaves_badCatalog taken
    | formFailed failure => exact leaves_formFailed taken
    | unwritable => exact leaves_unwritable taken
    | written document => exact leaves_written taken
  have taken := Way.taken_of o m answers
  refine ⟨Way.of o m answers, ⟨taken, leaves _ taken⟩, ?_⟩
  rintro way ⟨taken', _⟩
  exact Way.eq_of_taken taken'

end

end Run

end InstallerSetup
