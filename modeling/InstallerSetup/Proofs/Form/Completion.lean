import InstallerSetup.Proofs.Form.ListEntries

/-!
# What a completion does

A completion writes to three places of the document: the enabled applications, the jump hosts, and
the password. What it writes there depends on the rest of the state and, where an old value may be
kept, on that value; and a value that was written once would be written again. So completing a state
twice is completing it once (`completion_settles`), whatever the state is.
-/

namespace InstallerSetup.Form

/-- What is taken for an empty text once is taken for it again. -/
theorem entriesOr_entriesOr (kept : List String) (text : String) :
    entriesOr (entriesOr kept text) text = entriesOr kept text := by
  unfold entriesOr
  split <;> rfl

namespace State

/-! ## The completed document -/

theorem enabled_complete (s : State) (catalog : Catalog) :
    (s.complete catalog).config.orch.enabled = s.chosenApps catalog := rfl

theorem provider_complete (s : State) (catalog : Catalog) :
    (s.complete catalog).config.provider = s.config.provider := rfl

theorem global_complete (s : State) (catalog : Catalog) :
    (s.complete catalog).config.global = s.config.global := rfl

theorem aws_complete (s : State) (catalog : Catalog) :
    (s.complete catalog).config.aws =
      { s.config.aws with jumpHostWhitelist := s.chosenJumpHosts } := rfl

theorem onprem_complete (s : State) (catalog : Catalog) :
    (s.complete catalog).config.onprem = s.config.onprem := rfl

theorem defaultPassword_complete (s : State) (catalog : Catalog) :
    (s.complete catalog).config.orch.defaultPassword = s.chosenPassword := rfl

theorem chosenPassword_ne_empty (s : State) : s.chosenPassword ≠ "" := by
  unfold chosenPassword
  split
  · decide
  · next given => exact fun empty => given (String.isEmpty_iff.2 empty)

/-- A password of the document is kept. -/
theorem chosenPassword_of_ne_empty {s : State} (given : s.config.orch.defaultPassword ≠ "") :
    s.chosenPassword = s.config.orch.defaultPassword :=
  if_neg fun empty => given (String.isEmpty_iff.1 empty)

/-- The jump hosts are those of the text that the form leaves, or those of the document. -/
theorem chosenJumpHosts_eq (s : State) :
    s.chosenJumpHosts = entriesOr s.config.aws.jumpHostWhitelist s.scratch.jumpHostWhitelist := by
  unfold chosenJumpHosts entriesOr
  simp only [String.isEmpty_iff]

/-! ## Completing a completed state -/

variable (s : State) (catalog : Catalog)

/-- The list that is kept is read and written, but an application that was kept is kept again. -/
theorem chosenApps_complete : (s.complete catalog).chosenApps catalog = s.chosenApps catalog := by
  have mode : (s.complete catalog).scratch = s.scratch := rfl
  unfold chosenApps
  rw [mode, enabled_complete]
  cases chosen : s.scratch.mode with
  | simple => rfl
  | advanced => rfl
  | skip =>
      simp only [chosenApps, chosen, List.filter_filter, Bool.and_self]

theorem chosenJumpHosts_complete : (s.complete catalog).chosenJumpHosts = s.chosenJumpHosts := by
  have text : (s.complete catalog).scratch = s.scratch := rfl
  rw [chosenJumpHosts_eq, aws_complete, text, chosenJumpHosts_eq, entriesOr_entriesOr]

theorem chosenPassword_complete : (s.complete catalog).chosenPassword = s.chosenPassword :=
  chosenPassword_of_ne_empty s.chosenPassword_ne_empty

/-- A completion changes nothing exactly if its three places hold what it would write there. -/
theorem complete_eq_self_iff {s : State} {catalog : Catalog} :
    s.complete catalog = s ↔
      s.chosenApps catalog = s.config.orch.enabled ∧
        s.chosenJumpHosts = s.config.aws.jumpHostWhitelist ∧
        s.chosenPassword = s.config.orch.defaultPassword := by
  constructor
  · intro same
    have config := congrArg State.config same
    refine ⟨?_, ?_, ?_⟩
    · exact congrArg (fun c => c.orch.enabled) config
    · exact congrArg (fun c => c.aws.jumpHostWhitelist) config
    · exact congrArg (fun c => c.orch.defaultPassword) config
  · rintro ⟨apps, jumpHosts, password⟩
    unfold complete
    rw [apps, jumpHosts, password]
    rfl

/--
Completing a state once more changes nothing. The first time only three places of the document
change, a password that is there is kept, and afterwards there is one.
-/
theorem completion_settles :
    (s.complete catalog).complete catalog = s.complete catalog ∧
      (s.complete catalog).flags = s.flags ∧ (s.complete catalog).scratch = s.scratch ∧
      (∃ enabled jumpHosts password, (s.complete catalog).config =
        { s.config with
          orch := { s.config.orch with enabled := enabled, defaultPassword := password }
          aws := { s.config.aws with jumpHostWhitelist := jumpHosts } }) ∧
      (s.config.orch.defaultPassword ≠ "" →
        (s.complete catalog).config.orch.defaultPassword = s.config.orch.defaultPassword) ∧
      (s.complete catalog).config.orch.defaultPassword ≠ "" := by
  refine ⟨complete_eq_self_iff.2 ⟨?_, ?_, ?_⟩, rfl, rfl,
    ⟨s.chosenApps catalog, s.chosenJumpHosts, s.chosenPassword, rfl⟩,
    chosenPassword_of_ne_empty, s.chosenPassword_ne_empty⟩
  · rw [chosenApps_complete, enabled_complete]
  · rw [chosenJumpHosts_complete, aws_complete]
  · rw [chosenPassword_complete, defaultPassword_complete]

/-- A state that no run leaves: a text of blanks and commas, an unknown application, a password. -/
theorem completion_settles_of_stray :
    let catalog : Catalog := ⟨.ofList [("p", ⟨"P", "", .ofList [("b", ⟨"B", ""⟩)]⟩)]⟩
    let s : State :=
      { config := { Config.initial with orch := ⟨["gone", "b", "b"], "Keep.Me.1", .empty⟩ }
        flags := .initial
        scratch := ⟨" a ,,b ", ["p", "q"], ["c"], .skip⟩ }
    s.config.orch.defaultPassword ≠ "" ∧
      (s.complete catalog).config.orch.defaultPassword = "Keep.Me.1" ∧
      (s.complete catalog).config.orch.enabled = ["b", "b"] ∧
      (s.complete catalog).config.aws.jumpHostWhitelist = ["a", "b"] ∧
      (s.complete catalog).complete catalog = s.complete catalog := by
  intro catalog s
  have given : s.config.orch.defaultPassword ≠ "" := by decide
  obtain ⟨again, _, _, _, kept, _⟩ := completion_settles s catalog
  exact ⟨given, kept given, by decide +kernel, by decide +kernel, again⟩

end State

end InstallerSetup.Form
