import InstallerSetup.Proofs.Catalog.Views
import InstallerSetup.Proofs.Form.FurtherAnswers
import InstallerSetup.Proofs.Run.Unchanged
import InstallerSetup.Storage.Directory

/-!
# Keeping a list and accepting it

The choice of the mode offers two ways to leave the enabled applications of a document alone: to
keep the list, or to go through all applications and accept those that are selected already. The
first one filters the list by the catalog, the second one the catalog by the list. So the outcome is
the same set (`accepting_agrees_with_skipping`), in different orders, and an application that the
document lists twice is kept twice but accepted once.
-/

namespace InstallerSetup

namespace Storage

/-- Whether a file can be replaced does not depend on its new content. -/
class Impartial (σ : Type) [Storage σ] : Prop where
  replace_eq_error {store : σ} {path : String} {content : List UInt8} {fault : Fault}
    (refused : replace store path content = .error fault) (content' : List UInt8) :
    replace store path content' = .error fault

instance : Impartial Memory where
  replace_eq_error {store path content fault} refused content' := by
    change store.replace path content = .error fault at refused
    change store.replace path content' = .error fault
    unfold Memory.replace at refused ⊢
    split at refused
    · next closed =>
        rw [if_pos closed]
        exact refused
    · cases refused

instance : Impartial Directory where
  replace_eq_error {store path content fault} refused content' := by
    change store.replace path content = .error fault at refused
    change store.replace path content' = .error fault
    unfold Directory.replace at refused ⊢
    split at refused
    · next invalid =>
        rw [if_pos invalid]
        exact refused
    · next valid =>
        rw [if_neg valid]
        cases found : store.destination path with
        | error kind =>
            rw [found] at refused
            exact refused
        | ok names =>
            rw [found] at refused
            cases refused

end Storage

namespace Form

/-! ## The options that are selected -/

theorem pick_map_succ {α : Type} {options picked : List α} {indices : List Nat}
    (found : pick options indices = .ok picked) (first : α) :
    pick (first :: options) (indices.map (· + 1)) = .ok picked := by
  induction indices generalizing picked with
  | nil => exact found
  | cons index rest ih =>
      unfold pick at found
      split at found
      · cases found
      · next option here =>
          split at found
          · cases found
          · next others later =>
              rw [List.map_cons, pick, List.getElem?_cons_succ, here, ih later]
              exact found

theorem selectedIndices_cons (item : Item) (items : List Item) :
    selectedIndices (item :: items) =
      (if item.selected then [0] else []) ++ (selectedIndices items).map (· + 1) := by
  unfold selectedIndices
  have here : ((item :: items)[0]?.map Item.selected).getD false = item.selected := rfl
  rw [List.length_cons, List.range_succ_eq_map, List.filter_cons, List.filter_map, here]
  cases item.selected with
  | true => rfl
  | false => rfl

/-- What lies at the positions of the selected options are these options. -/
theorem pick_selectedIndices (items : List Item) :
    pick items (selectedIndices items) = .ok (items.filter Item.selected) := by
  induction items with
  | nil => rfl
  | cons item items ih =>
      have later := pick_map_succ ih item
      rw [selectedIndices_cons, List.filter_cons]
      cases item.selected with
      | true =>
          simp only [if_true, List.singleton_append]
          rw [pick, List.getElem?_cons_zero, later]
      | false => exact later

namespace Installer

variable {s : State} {catalog : Catalog}

theorem selected_appItems (s : State) (catalog : Catalog) :
    ((appItems s catalog).filter Item.selected).map Item.id =
      catalog.sortedByName s.config.orch.enabled := by
  unfold appItems Catalog.sortedByName
  rw [List.filter_map, List.map_map]
  rfl

/-! ## The runs behind the choice of the mode -/

/-- The second option, and then what is selected. -/
theorem run_fromMode_accepting (catalog : Catalog) (enabled : s.config.orch.enabled ≠ []) :
    ∃ moments, run catalog fromMode s [.choose 1, .accept] =
      ⟨moments, [],
        ListPlace.enabledAdvanced.set ((Setting.mode .advanced).store s)
          (catalog.sortedByName s.config.orch.enabled), .ok ()⟩ := by
  have chooses := settles_mode catalog enabled 1 rfl
  have accepts : (advanced.fields.head (List.cons_ne_nil _ _)).Settles catalog
      ((Setting.mode .advanced).store s) [.accept]
      (Edit.list .enabledAdvanced (catalog.sortedByName s.config.orch.enabled)) := by
    refine ⟨_, .accepted rfl ?_, rfl⟩
    unfold judgePicks
    rw [pick_selectedIndices, ← selected_appItems]
    rfl
  have passes : Passes catalog [mode, simple, advanced] s
      [⟨mode, [⟨_, [.choose 1], _⟩]⟩, ⟨advanced, [⟨_, [.accept], _⟩]⟩] _ _ :=
    .shown rfl (.cons chooses .nil)
      (.hidden rfl (.shown rfl (.cons accepts .nil) .nil))
  exact ⟨_, passes.run_eq []⟩

/-! ## The way to the choice of the mode -/

/-- Answers that lead up to the choice of the mode, or to a failure on the way there. -/
structure UpToMode (catalog : Catalog) (s : State) (answers : List Answer) : Prop where
  suffice : (run catalog beforeMode s answers).result ≠ .error .aborted
  spent : (run catalog beforeMode s answers).result = .ok () →
    (run catalog beforeMode s answers).remaining = []

/-- On the way to the choice of the mode nothing is bound to the enabled applications. -/
theorem enabled_beforeMode (catalog : Catalog) (s : State) (answers : List Answer) :
    (run catalog beforeMode s answers).state.config.orch.enabled = s.config.orch.enabled := by
  obtain ⟨changes, last, reached, stops, _⟩ := run_stops catalog beforeMode s answers
  have bound : ∀ entry ∈ table.take 16, List.Forall₂ Field.IsBoundTo entry.1.fields entry.2 :=
    fun entry member => table_bound entry (List.mem_of_mem_take member)
  have inTable : Reaches catalog (.start ((table.take 16).map Prod.fst) s answers) changes last :=
    reached
  obtain ⟨trace, reached⟩ := inTable.exists_edits_of_table bound
  have elsewhere : ∀ step ∈ trace, step.edit.place ≠ .list .enabled :=
    reached.allowed_of_table bound (fun place => place ≠ .list .enabled) (by decide)
  rw [stops]
  exact (Edit.list.inj (reached.content_of_notMem elsewhere)).2

/-- Whatever is picked, the run gets to the choice of the mode with it, or fails before that. -/
theorem run_upToMode {answers : List Answer} (leads : UpToMode catalog s answers) :
    (∃ failure, ∀ picks, (run catalog installer s (answers ++ picks)).result = .error failure) ∨
      ∃ moments, ∀ picks, run catalog installer s (answers ++ picks) =
        (run catalog fromMode (run catalog beforeMode s answers).state picks).afterAll moments := by
  have split := run_append_of_ne_aborted catalog leads.suffice fromMode
  have spent := leads.spent
  rw [installer_eq_beforeMode]
  generalize run catalog beforeMode s answers = report at split spent ⊢
  obtain ⟨moments, remaining, t, result⟩ := report
  cases result with
  | error failure =>
      refine .inl ⟨failure, fun picks => ?_⟩
      rw [split]
      rfl
  | ok _ =>
      obtain rfl := spent rfl
      exact .inr ⟨moments, split⟩

end Installer

end Form

namespace Run

open Form.Installer (UpToMode beforeMode modeChoices modeLabel)

variable {σ : Type} [Storage σ] {o : Options} {store : σ} {config : Config} {catalog : Catalog}

/-! ## Runs that end alike -/

/-- What goes wrong with printing does not depend on what is printed. -/
theorem snd_echo_eq (debug : Bool) (sink : Sink) (c d : Config) :
    (echo debug sink c).2 = (echo debug sink d).2 := by
  cases debug with
  | false => rfl
  | true =>
      unfold echo Sink.print
      cases sink.writeFault with
      | none => rfl
      | some fault => rfl

variable {answers answers' : List Form.Answer}

/-- Two runs that are done with their forms are both cut short or both succeed. -/
theorem results_alike [Storage.Impartial σ] (loaded : Loaded o store config catalog)
    {report report' : Form.Report}
    (ran : Form.run catalog Form.installer (.start config o.flags) answers = report)
    (ran' : Form.run catalog Form.installer (.start config o.flags) answers' = report')
    (done : report.result = .ok ()) (done' : report'.result = .ok ())
    (debug : report.state.flags.debug = report'.state.flags.debug) (sink : Sink) :
    (∃ error, (run o store sink answers).result = .error error ∧
        (run o store sink answers').result = .error error) ∨
      (run o store sink answers).result = .ok (report.state.complete catalog).config ∧
        (run o store sink answers').result = .ok (report'.state.complete catalog).config := by
  cases written : Storage.replace store o.configPath
      (Text.encode (report.state.complete catalog).config.render) with
  | error fault =>
      have written' := Storage.Impartial.replace_eq_error written
        (Text.encode (report'.state.complete catalog).config.render)
      obtain ⟨_, same⟩ := run_of_replace_error loaded ran done written sink
      obtain ⟨_, same'⟩ := run_of_replace_error loaded ran' done' written' sink
      exact .inl ⟨.failure (.unwritable o.configPath fault), by rw [same], by rw [same']⟩
  | ok left =>
      cases written' : Storage.replace store o.configPath
          (Text.encode (report'.state.complete catalog).config.render) with
      | error fault =>
          rw [Storage.Impartial.replace_eq_error written'] at written
          cases written
      | ok left' =>
          obtain ⟨_, same⟩ := run_of_replace_ok loaded ran done written sink
          obtain ⟨_, same'⟩ := run_of_replace_ok loaded ran' done' written' sink
          rw [same, same', ← debug, snd_echo_eq report.state.flags.debug sink
            (report'.state.complete catalog).config (report.state.complete catalog).config]
          cases (echo report.state.flags.debug sink (report.state.complete catalog).config).2 with
          | some cause => exact .inl ⟨.unprinted cause, rfl, rfl⟩
          | none => exact .inr ⟨rfl, rfl⟩

/-! ## Skipping and accepting -/

/--
Keeping the list of a document and accepting what the advanced mode selects, with the same answers
in front, both fail for one reason or both succeed. Then the documents differ at most in the enabled
applications, and these are the same ones: those of the document that the catalog lists. The list
that is kept has them in the order of the document, the accepted one once each in the order of
display.
-/
theorem accepting_agrees_with_skipping [Storage.Impartial σ]
    (loaded : Loaded o store config catalog) (enabled : config.orch.enabled ≠ [])
    (leads : UpToMode catalog (.start config o.flags) answers) (sink : Sink) :
    let choice := (Form.run catalog beforeMode (.start config o.flags) answers).state
    let skipping := run o store sink (answers ++ [.choose 2])
    let accepting := run o store sink (answers ++ [.choose 1, .accept])
    (modeChoices choice catalog).map (fun option => (option.label, option.setting)) =
        [.simple, .advanced, .skip].map (fun mode => (modeLabel mode, .mode mode)) ∧
      ((∃ error, skipping.result = .error error ∧ accepting.result = .error error) ∨
        ∃ kept picked, skipping.result = .ok kept ∧ accepting.result = .ok picked ∧
          Storage.replace store o.configPath (Text.encode kept.render) = .ok skipping.store ∧
          Storage.replace store o.configPath (Text.encode picked.render) = .ok accepting.store ∧
          picked = { kept with orch := { kept.orch with enabled := picked.orch.enabled } } ∧
          kept.orch.enabled = config.orch.enabled.filter catalog.containsApp ∧
          (∀ id, id ∈ kept.orch.enabled ↔ id ∈ config.orch.enabled ∧ catalog.Lists id) ∧
          (∀ id, id ∈ picked.orch.enabled ↔ id ∈ config.orch.enabled ∧ catalog.Lists id) ∧
          picked.orch.enabled.Nodup ∧ picked.orch.enabled.Pairwise catalog.NamedBefore) := by
  intro choice skipping accepting
  have same : choice.config.orch.enabled = config.orch.enabled :=
    Form.Installer.enabled_beforeMode catalog _ answers
  have given : choice.config.orch.enabled ≠ [] := same ▸ enabled
  refine ⟨?_, ?_⟩
  · rw [Form.Installer.modeChoices_of_enabled given]
    rfl
  -- the answers in front decide whether the choice of the mode is reached, and in which state
  rcases Form.Installer.run_upToMode leads with ⟨failure, fails⟩ | ⟨moments, ran⟩
  · obtain ⟨_, skips⟩ := run_of_form_error loaded (fails [.choose 2]) sink
    obtain ⟨_, accepts⟩ := run_of_form_error loaded (fails [.choose 1, .accept]) sink
    exact .inl ⟨.failure failure, congrArg Outcome.result skips, congrArg Outcome.result accepts⟩
  · obtain ⟨_, skips, _⟩ := Form.Installer.run_fromMode_of_choose catalog given
    obtain ⟨_, accepts⟩ := Form.Installer.run_fromMode_accepting catalog given
    have skipped := (ran _).trans (congrArg (Form.Report.afterAll · moments) skips)
    have accepted := (ran _).trans (congrArg (Form.Report.afterAll · moments) accepts)
    rcases results_alike loaded skipped accepted rfl rfl rfl sink with failed | ⟨kept, picked⟩
    · exact .inl failed
    · refine .inr ⟨_, _, kept, picked, replace_of_result_ok kept, replace_of_result_ok picked, rfl,
        congrArg (List.filter catalog.containsApp) same, fun id => ?_, fun id => ?_,
        catalog.nodup_sortedByName _, catalog.pairwise_sortedByName _⟩
      · rw [← same, ← Catalog.containsApp_iff]
        exact List.mem_filter
      · rw [← same]
        exact Catalog.mem_sortedByName_iff

/-! ### A document with an unknown application and one that is listed twice -/

def staleCatalog : Catalog :=
  ⟨.ofList
    [("p", ⟨"P", "", .ofList [("a", ⟨"Z", ""⟩), ("b", ⟨"B", ""⟩)]⟩),
      ("q", ⟨"Q", "", .ofList [("a", ⟨"A", ""⟩)]⟩)]⟩

def staleDocument : Config :=
  { Config.initial with orch := ⟨["gone", "a", "b", "a"], "", .empty⟩ }

def staleStore : Storage.Memory :=
  (Storage.Memory.empty.withFile "p.yaml"
    (Text.encode
      ("p:\n  name: P\n  apps:\n    a: \x7bname: Z\x7d\n    b: \x7bname: B\x7d\n" ++
        "q:\n  name: Q\n  apps:\n    a: \x7bname: A\x7d\n"))).withFile "c.yaml"
      (Text.encode "version: 2\norch:\n enabled: [gone, a, b, a]\n")

theorem staleDocument_loaded : Loaded demoOptions staleStore staleDocument staleCatalog where
  config := by
    change (loadConfig "c.yaml" (Storage.read staleStore "c.yaml")).2 = .ok staleDocument
    exact Except.eq_ok_of_toOption (by decide +kernel)
  catalog := by
    change (loadCatalog "p.yaml" (Storage.read staleStore "p.yaml")).2 = .ok staleCatalog
    exact Except.eq_ok_of_toOption (by decide +kernel)

def leadingAnswers : List Form.Answer := demoAnswers.take 13

theorem leadingAnswers_lead :
    UpToMode staleCatalog (.start staleDocument demoOptions.flags) leadingAnswers := by
  have done : (Form.run staleCatalog beforeMode (.start staleDocument demoOptions.flags)
      leadingAnswers).result = .ok () := Except.eq_ok_of_toOption (by decide +kernel)
  constructor
  · rw [done]
    exact fun aborted => by cases aborted
  · intro _
    decide +kernel

theorem accepting_agrees_with_skipping_stale :
    Loaded demoOptions staleStore staleDocument staleCatalog ∧
      staleDocument.orch.enabled ≠ [] ∧
      UpToMode staleCatalog (.start staleDocument demoOptions.flags) leadingAnswers ∧
      ∃ kept picked,
        (run demoOptions staleStore .reliable (leadingAnswers ++ [.choose 2])).result = .ok kept ∧
        (run demoOptions staleStore .reliable (leadingAnswers ++ [.choose 1, .accept])).result =
          .ok picked ∧
        kept.orch.enabled = ["a", "b", "a"] ∧ picked.orch.enabled.Nodup ∧
        ∀ id, id ∈ picked.orch.enabled ↔ id ∈ ["a", "b", "a"] := by
  have enabled : staleDocument.orch.enabled ≠ [] := by decide
  obtain ⟨_, ⟨error, fails, _⟩ | ⟨kept, picked, skipped, accepted, _, _, _, filtered, keeps, picks,
      nodup, _⟩⟩ :=
    accepting_agrees_with_skipping staleDocument_loaded enabled leadingAnswers_lead .reliable
  · have done : (Form.run staleCatalog Form.installer (.start staleDocument demoOptions.flags)
        (leadingAnswers ++ [.choose 2])).result = .ok () :=
      Except.eq_ok_of_toOption (by decide +kernel)
    obtain ⟨_, ended⟩ := run_of_replace_ok staleDocument_loaded rfl done
      (Storage.Memory.replace_of_not_readOnly rfl) .reliable
    rw [ended] at fails
    cases fails
  · have order : kept.orch.enabled = ["a", "b", "a"] := filtered.trans (by decide +kernel)
    refine ⟨staleDocument_loaded, enabled, leadingAnswers_lead, kept, picked, skipped, accepted,
      order, nodup, fun id => ?_⟩
    rw [← order]
    exact (picks id).trans (keeps id).symm

end Run

end InstallerSetup
