import InstallerSetup.Proofs.Catalog
import InstallerSetup.Proofs.Form.Completion
import InstallerSetup.Proofs.Run.Phases
import InstallerSetup.Storage.Memory

/-!
# What a written document satisfies

Whatever a run starts from, the document it writes is of the current version and has a provider, a
scale and a password, and all its enabled applications are listed by the catalog of the run. The
applications depend on the mode: those of the advanced mode come from the group that is shown last,
under the very mode that the completion finds.
-/

namespace InstallerSetup

namespace Form

namespace Installer

variable {catalog : Catalog} {s t : State} {answers rest : List Answer}
  {trace : List (Settlement Edit)}

/-! ## The mode of the last group -/

/-- The groups up to the choice of applications one by one, with the places of their fields. -/
def beforeAdvanced : List (Group × List Place) := table.take 18

def onlyAdvanced : List (Group × List Place) := table.drop 18

theorem onlyAdvanced_bound :
    ∀ entry ∈ onlyAdvanced, List.Forall₂ Field.IsBoundTo entry.1.fields entry.2 :=
  fun entry member => table_bound entry (List.mem_of_mem_drop member)

/-- The mode stands while the last group is reached. -/
theorem mode_of_onlyAdvanced {stage : Stage}
    (reached : Reaches catalog (.start (onlyAdvanced.map Prod.fst) s answers) trace stage) :
    stage.state.scratch.mode = s.scratch.mode := by
  have kept := reached.allowed_of_table onlyAdvanced_bound (fun place => place ≠ .mode) (by decide)
  exact Edit.mode.inj (reached.content_of_notMem kept)

/-- In the advanced mode the last group is shown, and it picks applications of the catalog. -/
theorem lists_of_advanced
    (reached : Reaches catalog (.start installer s answers) trace ⟨[], [], t, rest⟩)
    (mode : t.scratch.mode = .advanced) : ∀ id ∈ t.scratch.enabledAdvanced, catalog.Lists id := by
  have reached' : Reaches catalog
      (.start (beforeAdvanced.map Prod.fst ++ onlyAdvanced.map Prod.fst) s answers) trace
      ⟨[], [], t, rest⟩ := reached
  rcases reached'.append with ⟨groups, impossible, _⟩ | ⟨earlier, later, u, left, rfl, _, inLast⟩
  · have none := (List.append_eq_nil_iff.1 impossible.symm).2
    cases none
  · have visible : ∀ (steps : List (Settlement Edit)) (middle : Stage),
        Reaches catalog (.start (onlyAdvanced.map Prod.fst) u left) steps middle →
          advanced.isVisible middle.state = true := by
      intro steps middle inMiddle
      have same : middle.state.scratch.mode = .advanced := by
        rw [mode_of_onlyAdvanced inMiddle, ← mode_of_onlyAdvanced inLast]
        exact mode
      exact beq_iff_eq.2 same
    have listed := List.mem_cons_self (a := advanced.fields.head (List.cons_ne_nil _ _)) (l := [])
    obtain ⟨⟨field, given, edit⟩, settled, rfl⟩ :=
      inLast.settled_of_final List.mem_cons_self visible listed
    obtain ⟨before, settles⟩ := inLast.settles_of_mem settled
    obtain ⟨ids, change_eq, offered⟩ := settles.of_multiSelect rfl
    obtain rfl : edit = .list .enabledAdvanced ids := Edit.apply_injective change_eq
    have content := content_of_mem reached (List.mem_append_right _ settled)
    have chosen : t.scratch.enabledAdvanced = ids := (Edit.list.inj content).2
    intro id member
    rw [chosen] at member
    obtain ⟨item, within, rfl⟩ := offered id member
    exact Catalog.lists_of_mem_appItems within

/-- In every mode the completed list holds applications of the catalog. -/
theorem lists_of_chosen
    (reached : Reaches catalog (.start installer s answers) trace ⟨[], [], t, rest⟩) :
    ∀ id ∈ t.chosenApps catalog, catalog.Lists id := by
  intro id member
  unfold State.chosenApps at member
  cases mode : t.scratch.mode with
  | simple =>
      rw [mode] at member
      exact Catalog.lists_of_mem_expand member
  | advanced =>
      rw [mode] at member
      exact lists_of_advanced reached mode id member
  | skip =>
      rw [mode] at member
      exact Catalog.containsApp_iff.1 (List.mem_filter.1 member).2

end Installer

/-! ## The completed document -/

/-- What the form and its completion make of a document, in terms of the one they began with. -/
structure Completes (catalog : Catalog) (loaded completed : Config) : Prop where
  version : completed.version = loaded.version
  provider : completed.provider.isSome = true
  scale : completed.global.scale.isSome = true
  password : completed.orch.defaultPassword ≠ ""
  kept : loaded.orch.defaultPassword ≠ "" →
    completed.orch.defaultPassword = loaded.orch.defaultPassword
  enabled : ∀ id ∈ completed.orch.enabled, catalog.Lists id

theorem completes_of_final {catalog : Catalog} {s t : State} {answers rest : List Answer}
    {trace : List (Settlement Edit)}
    (reached : Reaches catalog (.start installer s answers) trace ⟨[], [], t, rest⟩) :
    Completes catalog s.config (t.complete catalog).config where
  version := (Installer.faithful reached).frame.config.version
  provider := by
    rw [State.provider_complete]
    exact Installer.provider_of_final reached
  scale := by
    rw [State.global_complete]
    exact Installer.scale_of_final reached
  password := by
    rw [State.defaultPassword_complete]
    exact State.chosenPassword_ne_empty t
  kept given := by
    have same : t.config.orch = s.config.orch := (Installer.faithful reached).orch
    rw [← same] at given
    rw [State.defaultPassword_complete, State.chosenPassword_of_ne_empty given, same]
  enabled := by
    rw [State.enabled_complete]
    exact Installer.lists_of_chosen reached

end Form

namespace Run

variable {σ : Type} [Storage σ] {o : Options} {store : σ} {sink : Sink}

theorem version_of_loadConfig {content : Except Storage.Fault String} {config : Config}
    (loaded : (loadConfig o.configPath content).2 = .ok config) :
    config.version = Config.currentVersion := by
  rw [snd_loadConfig] at loaded
  split at loaded
  · split at loaded
    · cases loaded
      rfl
    · cases loaded
  · exact Config.version_of_ofText loaded

/--
The document that a successful run writes is of the current version and has a provider, a scale and
a password, the loaded one if there was one; the catalog lists all its enabled applications.
-/
theorem written_of_result {answers : List Form.Answer} {c : Config}
    (done : (run o store sink answers).result = .ok c) :
    ∃ loaded catalog, Loaded o store loaded catalog ∧
      Storage.replace store o.configPath (Text.encode c.render) =
        .ok (run o store sink answers).store ∧
      c.version = 2 ∧ c.provider.isSome = true ∧
      c.global.scale.isSome = true ∧ c.orch.defaultPassword ≠ "" ∧
      (loaded.orch.defaultPassword ≠ "" →
        c.orch.defaultPassword = loaded.orch.defaultPassword) ∧
      ∀ id ∈ c.orch.enabled, catalog.Lists id := by
  obtain ⟨loaded, catalog, phases, held, rfl, written⟩ := of_result_ok done
  obtain ⟨trace, reached⟩ := Form.Installer.reaches_end held
  have completes : Form.Completes catalog loaded _ := Form.completes_of_final reached
  refine ⟨loaded, catalog, phases, written, ?_, completes.provider, completes.scale,
    completes.password, completes.kept, completes.enabled⟩
  exact completes.version.trans (version_of_loadConfig phases.config)

/-! ### A first run in the advanced mode -/

def demoOptions : Options := ⟨"c.yaml", "p.yaml", false, false⟩

def demoStore : Storage.Memory :=
  Storage.Memory.empty.withFile "p.yaml"
    (Text.encode "p:\n  name: P\n  apps:\n    a:\n      name: A\n")

def demoAnswers : List Form.Answer :=
  [.text "demo", .text "a.b", .text "a@b.co", .choose 1, .choose 1, .text "1.1.1.1",
    .text "1.1.1.1", .text "1.1.1.1", .accept, .accept, .accept, .accept, .accept, .choose 1,
    .chooseMany [0]]

def demoDocument : Config :=
  { Config.initial with
    provider := some .onprem
    global := ⟨"demo", "a.b", "a@b.co", some .nodes100, .empty⟩
    onprem := ⟨"1.1.1.1", "1.1.1.1", "1.1.1.1", "", "", .empty⟩
    orch := ⟨["a"], Config.initialPassword, .empty⟩ }

theorem written_of_demo :
    (run demoOptions demoStore .reliable demoAnswers).result = .ok demoDocument ∧
      ∃ loaded catalog, Loaded demoOptions demoStore loaded catalog ∧ catalog.Lists "a" := by
  have done : (run demoOptions demoStore .reliable demoAnswers).result = .ok demoDocument :=
    Except.eq_ok_of_toOption (by decide +kernel)
  obtain ⟨loaded, catalog, phases, _, _, _, _, _, _, lists⟩ := written_of_result done
  exact ⟨done, loaded, catalog, phases, lists "a" List.mem_cons_self⟩

end Run

end InstallerSetup
