import InstallerSetup.Proofs.Form.Agreement
import InstallerSetup.Proofs.Run.JumpHosts

/-!
# Sessions that change nothing

A session that accepts everything it shows and keeps the list of applications gives back the
document it began with, in expert mode or not. The document has to pass its check, so that
everything can be accepted, and its completion has to find nothing to do: the applications are
listed by the catalog, there is a password, and the jump hosts are plain entries (`Keepable`).
-/

namespace InstallerSetup

namespace Form

/-- A document that a session can accept as it is, and that its completion then leaves alone. -/
structure Keepable (catalog : Catalog) (c : Config) : Prop where
  passes : c.check = .ok ()
  enabled : c.orch.enabled ≠ []
  listed : ∀ id ∈ c.orch.enabled, catalog.Lists id
  password : c.orch.defaultPassword ≠ ""
  plain : ∀ entry ∈ c.aws.jumpHostWhitelist, IsPlainEntry entry

namespace Installer

variable {s : State} {catalog : Catalog}

def acceptingAnswers (s : State) : List Answer :=
  (shownFields beforeMode s).map (fun _ => .accept) ++ [.choose 2]

/-! ## The choice of the mode -/

theorem modeChoices_of_enabled (enabled : s.config.orch.enabled ≠ []) :
    modeChoices s catalog = [.simple, .advanced, .skip].map fun mode =>
      ⟨modeLabel mode, s.scratch.mode == mode, .mode mode⟩ := by
  unfold modeChoices offeredModes
  rw [if_neg (mt List.isEmpty_iff.1 enabled)]

theorem settles_mode (catalog : Catalog) (enabled : s.config.orch.enabled ≠ []) (index : Nat)
    {chosen : Mode} (offered : [Mode.simple, .advanced, .skip][index]? = some chosen) :
    (mode.fields.head (List.cons_ne_nil _ _)).Settles catalog s [.choose index]
      (Edit.mode chosen) := by
  refine ⟨.mode chosen, .accepted rfl ?_, rfl⟩
  rw [judgeChoice, modeChoices_of_enabled enabled, List.getElem?_map, offered]
  rfl

/-- The third option keeps the list, and no list of packages or applications is shown behind it. -/
theorem run_fromMode_of_choose (catalog : Catalog) (enabled : s.config.orch.enabled ≠ []) :
    ∃ moments, run catalog fromMode s [.choose 2] =
        ⟨moments, [], (Setting.mode .skip).store s, .ok ()⟩ ∧
      moments.filterMap Moment.rejection? = [] := by
  have settles := settles_mode catalog enabled 2 rfl
  have passes : Passes catalog [mode, simple, advanced] s [⟨mode, [⟨_, [.choose 2], _⟩]⟩] _
      ((Setting.mode .skip).store s) :=
    .shown rfl (.cons settles .nil) (.hidden rfl (.hidden rfl .nil))
  refine ⟨_, passes.run_eq [], ?_⟩
  rw [List.append_nil, List.filterMap_cons_none rfl, List.filterMap_append]
  exact List.append_eq_nil_iff.2 ⟨settles.quiet, rfl⟩

/-! ## The whole form -/

variable {c : Config}

theorem run_keeping (keepable : Keepable catalog c) (flags : Flags) :
    ∃ moments, run catalog installer (.start c flags) (acceptingAnswers (.start c flags)) =
        ⟨moments, [], (Setting.mode .skip).store (.start c flags), .ok ()⟩ ∧
      moments.filterMap Moment.rejection? = [] := by
  obtain ⟨_, scaled, ⟨p, chosen, _⟩, _⟩ := Config.check_eq_ok_iff.1 keepable.passes
  have goes := goesBy_installer (s := .start c flags) catalog scaled
    (Option.isSome_iff_exists.2 ⟨p, chosen⟩) [.choose 2]
  rw [objections_of_check flags keepable.passes] at goes
  obtain ⟨front, ran, quiet⟩ := goes
  obtain ⟨back, ended, quiet'⟩ :=
    run_fromMode_of_choose (s := .start c flags) catalog keepable.enabled
  refine ⟨front ++ back, ?_, by rw [List.filterMap_append, quiet, quiet']; rfl⟩
  rw [acceptingAnswers, ran]
  change (run catalog fromMode (.start c flags) [.choose 2]).afterAll front = _
  rw [ended]
  rfl

/-- The completion finds nothing to do. -/
theorem complete_keeping (keepable : Keepable catalog c) (flags : Flags) :
    (((Setting.mode .skip).store (.start c flags)).complete catalog).config = c := by
  have apps : c.orch.enabled.filter catalog.containsApp = c.orch.enabled :=
    List.filter_eq_self.2 fun id member => Catalog.containsApp_iff.2 (keepable.listed id member)
  have jumpHosts :
      ((Setting.mode .skip).store (.start c flags)).chosenJumpHosts = c.aws.jumpHostWhitelist := by
    rw [State.chosenJumpHosts_eq]
    exact entriesOr_intercalate_eq_iff.2 (.inr keepable.plain)
  have password :
      ((Setting.mode .skip).store (.start c flags)).chosenPassword = c.orch.defaultPassword :=
    State.chosenPassword_of_ne_empty keepable.password
  calc (((Setting.mode .skip).store (.start c flags)).complete catalog).config
      = { c with
          aws := { c.aws with
            jumpHostWhitelist :=
              ((Setting.mode .skip).store (.start c flags)).chosenJumpHosts }
          orch := { c.orch with
            enabled := c.orch.enabled.filter catalog.containsApp
            defaultPassword :=
              ((Setting.mode .skip).store (.start c flags)).chosenPassword } } := rfl
    _ = c := by rw [apps, jumpHosts, password]

end Installer

end Form

namespace Run

open Form (Flags Keepable)
open Form.Installer (acceptingAnswers modeChoices modeLabel)

theorem echoed_reliable (debug : Bool) (c d : Config) :
    echoed c (echo debug .reliable d).2 = .ok c := by
  cases debug <;> rfl

/--
A session that accepts all that is shown and keeps the list of applications comes to its end without
a refusal, and the document that it leaves and writes is the one that it began with.
-/
theorem unchanged_by_keeping {catalog : Catalog} {c : Config} (keepable : Keepable catalog c)
    (flags : Flags) :
    ((modeChoices (.start c flags) catalog)[2]?.map fun choice => (choice.label, choice.setting)) =
        some (modeLabel .skip, .mode .skip) ∧
      ∃ report,
        Form.run catalog Form.installer (.start c flags) (acceptingAnswers (.start c flags)) =
          report ∧
        report.result = .ok () ∧ report.rejections = [] ∧ report.remaining = [] ∧
        (report.state.complete catalog).config = c ∧
        ∀ {σ : Type} [Storage σ] (o : Options) (store store' : σ), o.flags = flags →
          Loaded o store c catalog →
          Storage.replace store o.configPath (Text.encode c.render) = .ok store' →
          (run o store .reliable (acceptingAnswers (.start c flags))).result = .ok c ∧
            (run o store .reliable (acceptingAnswers (.start c flags))).store = store' := by
  constructor
  · rw [Form.Installer.modeChoices_of_enabled keepable.enabled]
    rfl
  · obtain ⟨moments, ran, quiet⟩ := Form.Installer.run_keeping keepable flags
    have same := Form.Installer.complete_keeping keepable flags
    refine ⟨_, ran, rfl, quiet, rfl, same, ?_⟩
    rintro σ _ o store store' rfl loaded written
    obtain ⟨log, outcome⟩ := run_of_replace_ok loaded ran rfl (by rw [same]; exact written)
      .reliable
    rw [outcome, echoed_reliable, same]
    exact ⟨rfl, rfl⟩

/-! ### A document for AWS with an application listed twice -/

def keepText : String :=
  "version: 2\nsite: n\nprovider: aws\nglobal:\n orchName: d\n parentDomain: d\n" ++
    " adminEmail: d@d.dd\n scale: 10\naws:\n region: us-west-2\n" ++
    " jumpHostWhitelist: [c]\norch:\n enabled: [b, b]\n defaultPassword: s\n"

def keepDocument : Config :=
  { Config.initial with
    extra := .ofList [("site", .string "n")]
    provider := some .aws
    global := ⟨"d", "d", "d@d.dd", some .nodes10, .empty⟩
    aws := { Config.initial.aws with region := "us-west-2", jumpHostWhitelist := ["c"] }
    orch := ⟨["b", "b"], "s", .empty⟩ }

def keepCatalog : Catalog := ⟨.ofList [("p", ⟨"P", "", .ofList [("b", ⟨"B", ""⟩)]⟩)]⟩

def keepStore : Storage.Memory :=
  (Storage.Memory.empty.withFile "p.yaml"
    (Text.encode "p:\n  name: P\n  apps:\n    b:\n      name: B\n")).withFile "c.yaml"
      (Text.encode keepText)

def keepOptions (expert : Bool) : Options := ⟨"c.yaml", "p.yaml", expert, true⟩

theorem keepDocument_loaded (expert : Bool) :
    Loaded (keepOptions expert) keepStore keepDocument keepCatalog where
  config := by
    change (loadConfig "c.yaml" (Storage.read keepStore "c.yaml")).2 = .ok keepDocument
    exact Except.eq_ok_of_toOption (by decide +kernel)
  catalog := by
    change (loadCatalog "p.yaml" (Storage.read keepStore "p.yaml")).2 = .ok keepCatalog
    exact Except.eq_ok_of_toOption (by decide +kernel)

theorem keepDocument_keepable : Keepable keepCatalog keepDocument where
  passes := Except.eq_ok_of_toOption (by decide +kernel)
  enabled := by decide
  listed := by
    simp only [← Catalog.containsApp_iff]
    decide +kernel
  password := by decide
  plain := by
    unfold Form.IsPlainEntry
    decide +kernel

theorem unchanged_keepDocument :
    Keepable keepCatalog keepDocument ∧
      (∀ expert : Bool,
        (run (keepOptions expert) keepStore .reliable
          (acceptingAnswers (.start keepDocument (keepOptions expert).flags))).result =
            .ok keepDocument) ∧
      (acceptingAnswers (.start keepDocument (keepOptions false).flags)).length = 12 ∧
      (acceptingAnswers (.start keepDocument (keepOptions true).flags)).length = 29 := by
  refine ⟨keepDocument_keepable, fun expert => ?_, by decide +kernel, by decide +kernel⟩
  obtain ⟨_, report, _, _, _, _, _, written⟩ :=
    unchanged_by_keeping keepDocument_keepable (keepOptions expert).flags
  exact (written (keepOptions expert) keepStore _ rfl (keepDocument_loaded expert)
    (Storage.Memory.replace_of_not_readOnly rfl)).1

end Run

end InstallerSetup
