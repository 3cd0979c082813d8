import InstallerSetup.Proofs.Form.Installer
import InstallerSetup.Run

/-!
# The phases of a run

A run loads the document, loads the catalog, holds the form, and writes the completed document. Each
phase is reached only if the one before it succeeds, and for each way to go on there is an equation
that says what the run comes to.
-/

namespace InstallerSetup.Run

variable {σ : Type} [Storage σ] {o : Options} {store : σ} {sink : Sink}
  {hold : Form → Form.State → Catalog → Form.Report}

/-- A document is what its text says; a missing one says nothing. -/
theorem snd_loadConfig (path : String) (content : Except Storage.Fault String) :
    (loadConfig path content).2 =
      match content with
      | .error fault =>
          if fault.kind = .notFound then .ok Config.initial
          else .error (.documentUnreadable path fault)
      | .ok text => Config.ofText text := by
  unfold loadConfig Config.ofText
  cases content with
  | error fault => by_cases missing : fault.kind = .notFound <;> simp [missing]
  | ok text =>
      simp only
      split
      · next parsed => rw [parsed]
      · next parsed => rw [parsed]

/-- What the document and the catalog of a run are loaded as. -/
structure Loaded (o : Options) (store : σ) (config : Config) (catalog : Catalog) : Prop where
  config : (loadConfig o.configPath (Storage.read store o.configPath)).2 = .ok config
  catalog : (loadCatalog o.packagePath (Storage.read store o.packagePath)).2 = .ok catalog

theorem Loaded.unique {config config' : Config} {catalog catalog' : Catalog}
    (first : Loaded o store config catalog) (second : Loaded o store config' catalog') :
    config = config' ∧ catalog = catalog' :=
  ⟨Except.ok.inj (first.config.symm.trans second.config),
    Except.ok.inj (first.catalog.symm.trans second.catalog)⟩

theorem runWith_of_loadConfig {failure : Failure}
    (fails : (loadConfig o.configPath (Storage.read store o.configPath)).2 = .error failure)
    (sink : Sink) :
    ∃ log, ∀ hold, runWith o store sink hold =
      ⟨store, log, none, "", .error (.failure failure)⟩ := by
  unfold runWith prepare
  generalize loadConfig o.configPath (Storage.read store o.configPath) = loaded at fails
  obtain ⟨log, result⟩ := loaded
  cases fails
  exact ⟨log, fun _ => rfl⟩

theorem runWith_of_loadCatalog {config : Config} {failure : Failure}
    (document : (loadConfig o.configPath (Storage.read store o.configPath)).2 = .ok config)
    (fails : (loadCatalog o.packagePath (Storage.read store o.packagePath)).2 = .error failure)
    (sink : Sink) :
    ∃ log, ∀ hold, runWith o store sink hold =
      ⟨store, log, none, "", .error (.failure failure)⟩ := by
  unfold runWith prepare
  generalize loadConfig o.configPath (Storage.read store o.configPath) = loaded at document
  generalize loadCatalog o.packagePath (Storage.read store o.packagePath) = found at fails
  obtain ⟨log, result⟩ := loaded
  obtain ⟨more, result'⟩ := found
  cases document
  cases fails
  exact ⟨_, fun _ => rfl⟩

theorem prepare_of_loaded {config : Config} {catalog : Catalog}
    (loaded : Loaded o store config catalog) :
    ∃ log, prepare o (Storage.read store o.configPath) (Storage.read store o.packagePath) =
      (log, .ok ⟨.start config o.flags, catalog⟩) := by
  obtain ⟨document, found⟩ := loaded
  unfold prepare
  generalize loadConfig o.configPath (Storage.read store o.configPath) = first at document
  generalize loadCatalog o.packagePath (Storage.read store o.packagePath) = second at found
  obtain ⟨log, result⟩ := first
  obtain ⟨more, result'⟩ := second
  cases document
  cases found
  exact ⟨_, rfl⟩

theorem runWith_of_form {config : Config} {catalog : Catalog} {failure : Failure}
    (loaded : Loaded o store config catalog) (hold : Form → Form.State → Catalog → Form.Report)
    (fails : (hold Form.installer (.start config o.flags) catalog).result = .error failure)
    (sink : Sink) :
    ∃ log, runWith o store sink hold =
      ⟨store, log, some (hold Form.installer (.start config o.flags) catalog), "",
        .error (.failure failure)⟩ := by
  obtain ⟨log, prepared⟩ := prepare_of_loaded loaded
  unfold runWith
  rw [prepared]
  simp only [fails]
  exact ⟨_, rfl⟩

theorem runWith_of_complete {config : Config} {catalog : Catalog}
    (loaded : Loaded o store config catalog) (hold : Form → Form.State → Catalog → Form.Report)
    (done : (hold Form.installer (.start config o.flags) catalog).result = .ok ())
    (sink : Sink) :
    ∃ log, runWith o store sink hold =
      conclude o store sink catalog log (hold Form.installer (.start config o.flags) catalog) := by
  obtain ⟨log, prepared⟩ := prepare_of_loaded loaded
  unfold runWith
  rw [prepared]
  simp only [done]
  exact ⟨_, rfl⟩

theorem conclude_of_replace_error {catalog : Catalog} {report : Form.Report}
    {fault : Storage.Fault}
    (fails : Storage.replace store o.configPath
      (Text.encode (report.state.complete catalog).config.render) = .error fault)
    (sink : Sink) (log : Log) :
    ∃ log', conclude o store sink catalog log report =
      ⟨store, log', some report, "", .error (.failure (.unwritable o.configPath fault))⟩ := by
  unfold conclude saveConfig
  simp only [fails]
  exact ⟨_, rfl⟩

/-- What is printed of a written document, and what goes wrong with it. -/
def echo (debug : Bool) (sink : Sink) (config : Config) : String × Option String :=
  if debug then sink.print config.render else ("", none)

def echoed (config : Config) : Option String → Except Error Config
  | some cause => .error (.unprinted cause)
  | none => .ok config

theorem conclude_of_replace_ok {catalog : Catalog} {report : Form.Report} {store' : σ}
    (written : Storage.replace store o.configPath
      (Text.encode (report.state.complete catalog).config.render) = .ok store')
    (sink : Sink) (log : Log) :
    ∃ log', conclude o store sink catalog log report =
      ⟨store', log', some report,
        (echo report.state.flags.debug sink (report.state.complete catalog).config).1,
        echoed (report.state.complete catalog).config
          (echo report.state.flags.debug sink (report.state.complete catalog).config).2⟩ := by
  have debug : (report.state.complete catalog).flags.debug = report.state.flags.debug := rfl
  unfold conclude saveConfig echo
  simp only [written, debug, Except.mapError]
  cases (if report.state.flags.debug = true then
    sink.print (report.state.complete catalog).config.render else ("", none)).2 with
  | none => exact ⟨_, rfl⟩
  | some cause => exact ⟨_, rfl⟩

/-- A conclusion that succeeds has written its document. -/
theorem conclude_of_result_ok {catalog : Catalog} {log : Log} {report : Form.Report} {c : Config}
    (done : (conclude o store sink catalog log report).result = .ok c) :
    c = (report.state.complete catalog).config ∧
      Storage.replace store o.configPath (Text.encode c.render) =
        .ok (conclude o store sink catalog log report).store := by
  cases written : Storage.replace store o.configPath
      (Text.encode (report.state.complete catalog).config.render) with
  | error fault =>
      obtain ⟨log', same⟩ := conclude_of_replace_error written sink log
      rw [same] at done
      cases done
  | ok store' =>
      obtain ⟨log', same⟩ := conclude_of_replace_ok written sink log
      rw [same] at done ⊢
      cases fault : (echo report.state.flags.debug sink
          (report.state.complete catalog).config).2 with
      | some cause =>
          rw [fault] at done
          cases done
      | none =>
          rw [fault] at done
          obtain rfl := Except.ok.inj done
          exact ⟨rfl, written⟩

/-- A run that succeeds has gone through all phases and has written its document. -/
theorem of_result_ok {c : Config} (done : (runWith o store sink hold).result = .ok c) :
    ∃ config catalog, Loaded o store config catalog ∧
      (hold Form.installer (.start config o.flags) catalog).result = .ok () ∧
      c = ((hold Form.installer (.start config o.flags) catalog).state.complete catalog).config ∧
      Storage.replace store o.configPath (Text.encode c.render) =
        .ok (runWith o store sink hold).store := by
  cases document : (loadConfig o.configPath (Storage.read store o.configPath)).2 with
  | error failure =>
      obtain ⟨log, same⟩ := runWith_of_loadConfig document sink
      rw [same] at done
      cases done
  | ok config =>
      cases found : (loadCatalog o.packagePath (Storage.read store o.packagePath)).2 with
      | error failure =>
          obtain ⟨log, same⟩ := runWith_of_loadCatalog document found sink
          rw [same] at done
          cases done
      | ok catalog =>
          have loaded : Loaded o store config catalog := ⟨document, found⟩
          cases held : (hold Form.installer (.start config o.flags) catalog).result with
          | error failure =>
              obtain ⟨log, same⟩ := runWith_of_form loaded hold held sink
              rw [same] at done
              cases done
          | ok _ =>
              obtain ⟨log, same⟩ := runWith_of_complete loaded hold held sink
              rw [same] at done ⊢
              exact ⟨config, catalog, loaded, held, conclude_of_result_ok done⟩

/-! ## Runs with answers -/

theorem report_conclude (o : Options) (store : σ) (sink : Sink) (catalog : Catalog) (log : Log)
    (report : Form.Report) : (conclude o store sink catalog log report).report = some report := by
  cases written : Storage.replace store o.configPath
      (Text.encode (report.state.complete catalog).config.render) with
  | error fault =>
      obtain ⟨log', same⟩ := conclude_of_replace_error written sink log
      rw [same]
  | ok store' =>
      obtain ⟨log', same⟩ := conclude_of_replace_ok written sink log
      rw [same]

theorem report_of_complete {config : Config} {catalog : Catalog}
    (loaded : Loaded o store config catalog) {answers : List Form.Answer}
    (done : (Form.run catalog Form.installer (.start config o.flags) answers).result = .ok ())
    (sink : Sink) :
    (run o store sink answers).report =
      some (Form.run catalog Form.installer (.start config o.flags) answers) := by
  obtain ⟨log, same⟩ :=
    runWith_of_complete loaded (fun form s catalog => Form.run catalog form s answers) done sink
  unfold run
  rw [same]
  exact report_conclude o store sink catalog log _

/-- What a run with answers comes to whose form fails. -/
theorem run_of_form_error {config : Config} {catalog : Catalog}
    (loaded : Loaded o store config catalog) {answers : List Form.Answer} {failure : Failure}
    (fails : (Form.run catalog Form.installer (.start config o.flags) answers).result =
      .error failure) (sink : Sink) :
    ∃ log, run o store sink answers =
      ⟨store, log, some (Form.run catalog Form.installer (.start config o.flags) answers), "",
        .error (.failure failure)⟩ :=
  runWith_of_form loaded (fun form s catalog => Form.run catalog form s answers) fails sink

/-- What a run with answers comes to whose document was written. -/
theorem run_of_replace_ok {config : Config} {catalog : Catalog}
    (loaded : Loaded o store config catalog) {answers : List Form.Answer} {report : Form.Report}
    (ran : Form.run catalog Form.installer (.start config o.flags) answers = report)
    (done : report.result = .ok ()) {store' : σ}
    (written : Storage.replace store o.configPath
      (Text.encode (report.state.complete catalog).config.render) = .ok store') (sink : Sink) :
    ∃ log, run o store sink answers =
      ⟨store', log, some report,
        (echo report.state.flags.debug sink (report.state.complete catalog).config).1,
        echoed (report.state.complete catalog).config
          (echo report.state.flags.debug sink (report.state.complete catalog).config).2⟩ := by
  subst ran
  obtain ⟨log, same⟩ :=
    runWith_of_complete loaded (fun form s catalog => Form.run catalog form s answers) done sink
  unfold run
  rw [same]
  exact conclude_of_replace_ok written sink log

/-- What a run with answers comes to whose document could not be written. -/
theorem run_of_replace_error {config : Config} {catalog : Catalog}
    (loaded : Loaded o store config catalog) {answers : List Form.Answer} {report : Form.Report}
    (ran : Form.run catalog Form.installer (.start config o.flags) answers = report)
    (done : report.result = .ok ()) {fault : Storage.Fault}
    (fails : Storage.replace store o.configPath
      (Text.encode (report.state.complete catalog).config.render) = .error fault) (sink : Sink) :
    ∃ log, run o store sink answers =
      ⟨store, log, some report, "", .error (.failure (.unwritable o.configPath fault))⟩ := by
  subst ran
  obtain ⟨log, same⟩ :=
    runWith_of_complete loaded (fun form s catalog => Form.run catalog form s answers) done sink
  unfold run
  rw [same]
  exact conclude_of_replace_error fails sink log

/-- A run that succeeds has put its document in place. -/
theorem replace_of_result_ok {answers : List Form.Answer} {c : Config}
    (done : (run o store sink answers).result = .ok c) :
    Storage.replace store o.configPath (Text.encode c.render) =
      .ok (run o store sink answers).store := by
  obtain ⟨_, _, _, _, _, written⟩ := of_result_ok done
  exact written

/--
What a run with answers that succeeded has loaded, how its form went, and what it has written.
-/
structure Success (o : Options) (store : σ) (sink : Sink) (answers : List Form.Answer)
    (c loaded : Config) (catalog : Catalog) (report : Form.Report)
    (trace : List (Form.Settlement Form.Edit)) : Prop where
  phases : Loaded o store loaded catalog
  report_eq : (run o store sink answers).report = some report
  course : report = Form.run catalog Form.installer (.start loaded o.flags) answers
  reached : Form.Reaches catalog (.start Form.installer (.start loaded o.flags) answers) trace
    ⟨[], [], report.state, report.remaining⟩
  document : c = (report.state.complete catalog).config
  written : Storage.replace store o.configPath (Text.encode c.render) =
    .ok (run o store sink answers).store

theorem success_of_result_ok {answers : List Form.Answer} {c : Config}
    (done : (run o store sink answers).result = .ok c) :
    ∃ loaded catalog report trace, Success o store sink answers c loaded catalog report trace := by
  obtain ⟨loaded, catalog, phases, held, document, written⟩ := of_result_ok done
  obtain ⟨trace, reached⟩ := Form.Installer.reaches_end held
  exact ⟨loaded, catalog, _, trace, phases, report_of_complete phases held sink, rfl, reached,
    document, written⟩

end InstallerSetup.Run
