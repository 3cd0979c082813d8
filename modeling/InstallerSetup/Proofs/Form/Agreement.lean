import InstallerSetup.Proofs.Config.Check
import InstallerSetup.Proofs.Form.Accepting
import InstallerSetup.Proofs.Form.Installer

/-!
# The form and the check of a whole document

The check of a document looks at its fields in the order in which the form asks for them, with the
same rules. So a run in expert mode that accepts everything it shows first refuses what the check
complains about, and gets to the choice of the mode if the check passes.
-/

namespace InstallerSetup

namespace Config

open Form (reason?)

/-! ## The first complaint of the check -/

theorem firstRefusal_append (front back : List Finding) :
    firstRefusal (front ++ back) = firstRefusal front >>= fun _ => firstRefusal back := by
  induction front with
  | nil => rfl
  | cons finding rest ih =>
      rw [List.cons_append, firstRefusal, firstRefusal]
      cases finding.verdict with
      | ok _ => exact ih
      | error refusal => rfl

def findings (c : Config) (p : Provider) : List Finding :=
  globalFindings c.global ++ (c.infrastructureFindings p ++ commonFindings c)

/-- What the check complains about is the first of the reasons that the findings give. -/
theorem firstRefusal_eq_error {findings : List Finding} {failure : Failure}
    (refused : firstRefusal findings = .error failure) :
    ∃ name message, failure = .invalidField name message ∧
      (findings.filterMap fun finding => reason? finding.verdict).head? = some message := by
  induction findings with
  | nil => cases refused
  | cons finding rest ih =>
      rw [firstRefusal] at refused
      rw [List.filterMap_cons]
      split at refused
      · next accepts =>
          rw [accepts]
          exact ih refused
      · next refusal refuses =>
          cases refused
          rw [refuses]
          exact ⟨_, _, rfl, rfl⟩

theorem check_eq_firstRefusal {c : Config} {p : Provider} (scaled : c.global.scale.isSome = true)
    (chosen : c.provider = some p) : c.check = firstRefusal (c.findings p) := by
  obtain ⟨scale, scale_eq⟩ := Option.isSome_iff_exists.1 scaled
  unfold check findings
  rw [firstRefusal_append, firstRefusal_append, scale_eq, chosen]
  cases p <;> rfl

end Config

namespace Form.Installer

/-! ## The fields in front of the choice of the mode -/

def beforeMode : Form := installer.take 16

def fromMode : Form := installer.drop 16

theorem installer_eq_beforeMode : installer = beforeMode ++ fromMode := rfl

variable {s : State} {catalog : Catalog}

theorem showsState_beforeMode (scaled : s.config.global.scale.isSome = true)
    (chosen : s.config.provider.isSome = true) :
    ∀ field ∈ fields beforeMode, field.ShowsState catalog s := by
  obtain ⟨scale, scale_eq⟩ := Option.isSome_iff_exists.1 scaled
  obtain ⟨p, provider_eq⟩ := Option.isSome_iff_exists.1 chosen
  have scales : (Field.select "Scale" scaleChoices |>.describe "Select target scale").ShowsState
      catalog s := by
    have listed : scale ∈ Config.Scale.all := by cases scale <;> decide
    refine Field.showsState_of_map rfl rfl (fun other held => ?_) listed (by simp [scale_eq])
    rw [← eq_of_beq held]
    rfl
  have providers : (Field.select "Infrastructure Type" providerChoices
      |>.describe "Select the infrastructure type where the EMF will be deployed.").ShowsState
      catalog s := by
    have listed : p ∈ Config.Provider.all := by cases p <;> decide
    refine Field.showsState_of_map rfl rfl (fun other held => ?_) listed (by simp [provider_eq])
    rw [← eq_of_beq held]
    rfl
  have each : ∀ group ∈ beforeMode, ∀ field ∈ group.fields, field.ShowsState catalog s := by
    simp only [beforeMode, installer, List.take_succ_cons, List.take_zero, List.forall_mem_cons]
    refine ⟨?_, ?_, ?_, ?_, ?_, ?_, ?_, ?_, ?_, ?_, ?_, ?_, ?_, ?_, ?_, ?_,
      List.forall_mem_nil _⟩
    all_goals
      repeat' first | exact List.forall_mem_nil _ | refine List.forall_mem_cons.2 ⟨?_, ?_⟩
    all_goals trivial
  intro field member
  obtain ⟨group, listed, inGroup⟩ := List.mem_flatMap.1 member
  exact each group listed field inGroup

/-- The groups that are shown for an infrastructure in expert mode. -/
def shownFor : Config.Provider → Form
  | .aws => [global, provider, awsBasic, awsExpert, proxy, cert, sre, smtp]
  | .onprem => [global, provider, onpremBasic, onpremExpert, proxy, cert, sre, smtp]

theorem shown_beforeMode {p : Config.Provider} (chosen : s.config.provider = some p)
    (expert : s.flags.expertMode = true) :
    (beforeMode.filter fun group => group.isVisible s) = shownFor p := by
  obtain ⟨config, flags, scratch⟩ := s
  cases config
  cases flags
  cases chosen
  cases expert
  cases p <;> rfl

/-- The fields that are shown give the reasons that the check finds, in the same order. -/
theorem reasons_eq {p : Config.Provider} (c : Config) (flags : Flags) :
    (fields (shownFor p)).filterMap (fun field => reason? (field.verdict (.start c flags))) =
      (c.findings p).filterMap fun finding => reason? finding.verdict := by
  cases p <;> rfl

theorem map_objections (fields : List Field) (s : State) :
    (objections fields s).map Prod.snd =
      fields.filterMap fun field => reason? (field.verdict s) := by
  unfold objections Field.objection?
  rw [List.map_filterMap]
  simp only [Option.map_map]
  exact congrArg (List.filterMap · fields) (funext fun field => Option.map_id')

/-- The fields in front of the choice of the mode rest unless their rules object. -/
theorem steady_beforeMode (scaled : s.config.global.scale.isSome = true)
    (chosen : s.config.provider.isSome = true) :
    ∀ field ∈ shownFields beforeMode s, field.objection? s = none → field.Rests catalog s := by
  intro field member accepts
  refine Field.rests_of_verdict (Field.objection?_eq_none_iff.1 accepts) ?_
  refine showsState_beforeMode scaled chosen field ?_
  obtain ⟨group, listed, inGroup⟩ := List.mem_flatMap.1 member
  exact List.mem_flatMap.2 ⟨group, (List.mem_filter.1 listed).1, inGroup⟩

/-- Accepting what is shown in front of the choice of the mode leads there or to an objection. -/
theorem goesBy_installer (catalog : Catalog) (scaled : s.config.global.scale.isSome = true)
    (chosen : s.config.provider.isSome = true) (rest : List Answer) :
    GoesBy catalog ⟨[], fromMode, s, rest⟩
      (run catalog installer s ((shownFields beforeMode s).map (fun _ => .accept) ++ rest))
      (objections (shownFields beforeMode s) s) := by
  rw [installer_eq_beforeMode]
  exact run_accepting fromMode rest (steady_beforeMode scaled chosen)

/-! ## Documents that pass the check -/

/-- If a group is shown, it is shown in expert mode too, or it has no rules. -/
def ShownOrPlain (s : State) (p : Config.Provider) (group : Group) : Prop :=
  group.isVisible s = true → group ∈ shownFor p ∨ ∀ field ∈ group.fields, field.verdict s = .ok ()

theorem shownOrPlain_common {p : Config.Provider} {group : Group}
    (listed : group ∈ [global, provider, proxy, cert, sre, smtp]) : ShownOrPlain s p group := by
  refine fun _ => .inl (List.Sublist.mem listed ?_)
  cases p <;> exact .cons_cons _ (.cons_cons _ (.cons _ (.cons _ (.refl _))))

theorem shownOrPlain_of_provider {p : Config.Provider} (chosen : Config.Provider) {group : Group}
    (given : s.config.provider = some p) (listed : group ∈ shownFor chosen)
    (own : group.isVisible s = true → s.config.provider = some chosen) :
    ShownOrPlain s p group := by
  intro visible
  obtain rfl : p = chosen := Option.some.inj (given.symm.trans (own visible))
  exact .inl listed

/-- A gate has one field, which asks for a truth value and has no rule. -/
theorem shownOrPlain_gate {p : Config.Provider} {title question hint : String} {slot : FlagSlot}
    {condition : State → Bool} :
    ShownOrPlain s p ((gate title question hint slot).shownIf condition) := by
  refine fun _ => .inr fun field member => ?_
  obtain rfl := List.mem_singleton.1 member
  rfl

/-- Only gates are shown that are not shown in expert mode. -/
theorem shownOrPlain_of_mem {p : Config.Provider} (chosen : s.config.provider = some p) :
    ∀ group ∈ beforeMode, ShownOrPlain s p group := by
  have aws_basic : ShownOrPlain s p awsBasic :=
    shownOrPlain_of_provider .aws chosen (by simp [shownFor]) eq_of_beq
  have aws_expert : ShownOrPlain s p awsExpert :=
    shownOrPlain_of_provider .aws chosen (by simp [shownFor]) fun visible =>
      eq_of_beq (Bool.and_eq_true_iff.1 visible).1
  have onprem_basic : ShownOrPlain s p onpremBasic :=
    shownOrPlain_of_provider .onprem chosen (by simp [shownFor]) eq_of_beq
  have onprem_expert : ShownOrPlain s p onpremExpert :=
    shownOrPlain_of_provider .onprem chosen (by simp [shownFor]) fun visible =>
      eq_of_beq (Bool.and_eq_true_iff.1 visible).1
  simp only [beforeMode, installer, List.take_succ_cons, List.take_zero, List.forall_mem_cons]
  exact ⟨shownOrPlain_common (by simp), shownOrPlain_common (by simp),
    aws_basic, shownOrPlain_gate, aws_expert,
    onprem_basic, shownOrPlain_gate, onprem_expert,
    shownOrPlain_gate, shownOrPlain_common (by simp),
    shownOrPlain_gate, shownOrPlain_common (by simp),
    shownOrPlain_gate, shownOrPlain_common (by simp),
    shownOrPlain_gate, shownOrPlain_common (by simp), List.forall_mem_nil _⟩

/-- If the check passes, no rule objects to what is shown, whether in expert mode or not. -/
theorem objections_of_check {c : Config} (flags : Flags) (passes : c.check = .ok ()) :
    objections (shownFields beforeMode (.start c flags)) (.start c flags) = [] := by
  obtain ⟨_, scaled, ⟨p, chosen, _⟩, _⟩ := Config.check_eq_ok_iff.1 passes
  rw [Config.check_eq_firstRefusal scaled chosen, Config.firstRefusal_eq_ok_iff] at passes
  have accepts : ∀ field ∈ fields (shownFor p), field.verdict (.start c flags) = .ok () := by
    intro field member
    have reasons := reasons_eq (p := p) c flags
    rw [List.filterMap_eq_nil_iff.2 fun finding listed =>
      reason?_eq_none_iff.2 (passes finding listed)] at reasons
    exact reason?_eq_none_iff.1 (List.filterMap_eq_nil_iff.1 reasons field member)
  refine List.filterMap_eq_nil_iff.2 fun field member => ?_
  rw [Field.objection?_eq_none_iff]
  obtain ⟨group, listed, inGroup⟩ := List.mem_flatMap.1 member
  obtain ⟨inFront, visible⟩ := List.mem_filter.1 listed
  rcases shownOrPlain_of_mem (s := .start c flags) chosen group inFront visible with
    inExpert | plain
  · exact accepts field (List.mem_flatMap.2 ⟨group, inExpert, inGroup⟩)
  · exact plain field inGroup

/-! ## Agreement -/

/--
A run in expert mode that accepts everything first refuses an answer for the reason that the check
of the document gives, and it gets to the choice of the mode without a refusal if the check passes.
-/
theorem accepting_agrees_with_check (catalog : Catalog) {c : Config} {flags : Flags} {n : Nat}
    (scaled : c.global.scale.isSome = true) (chosen : c.provider.isSome = true)
    (expert : flags.expertMode = true) (enough : (fields installer).length ≤ n) :
    (∀ failure, c.check = .error failure →
      ∃ name message title, failure = .invalidField name message ∧
        (run catalog installer (.start c flags) (List.replicate n .accept)).rejections.head? =
          some (title, message)) ∧
      (c.check = .ok () → ∃ before after,
        (run catalog installer (.start c flags) (List.replicate n .accept)).moments =
            before ++ .began mode.title :: after ∧
          before.filterMap Moment.rejection? = []) := by
  obtain ⟨p, provider_eq⟩ := Option.isSome_iff_exists.1 chosen
  have shown : shownFields beforeMode (.start c flags) = fields (shownFor p) := by
    unfold shownFields
    rw [shown_beforeMode provider_eq expert]
  have few : (fields (shownFor p)).length ≤ n := by
    refine Nat.le_trans ?_ enough
    cases p <;> decide
  have answers : List.replicate n Answer.accept =
      (shownFields beforeMode (.start c flags)).map (fun _ => .accept) ++
        List.replicate (n - (fields (shownFor p)).length) .accept := by
    rw [shown, List.map_const', ← List.replicate_add, Nat.add_sub_cancel' few]
  have goes := goesBy_installer (s := .start c flags) catalog scaled chosen
    (List.replicate (n - (fields (shownFor p)).length) .accept)
  rw [← answers] at goes
  constructor
  · intro failure refused
    rw [Config.check_eq_firstRefusal scaled provider_eq] at refused
    obtain ⟨name, message, rfl, first⟩ := Config.firstRefusal_eq_error refused
    rw [← reasons_eq c flags, ← map_objections, List.head?_map] at first
    obtain ⟨objection, head, rfl⟩ := Option.map_eq_some_iff.1 first
    obtain ⟨others, split⟩ := List.head?_eq_some_iff.1 head
    rw [shown, split] at goes
    exact ⟨name, objection.2, objection.1, rfl, goes⟩
  · intro passes
    rw [objections_of_check flags passes] at goes
    obtain ⟨moments, ran, quiet⟩ := goes
    rw [show fromMode = mode :: fromMode.tail from rfl, Stage.resume_shown rfl] at ran
    exact ⟨moments, _, congrArg Report.moments ran, quiet⟩

/-- A document for AWS in which neither the domain, the email nor the region can stay. -/
def unfitConfig : Config :=
  { Config.initial with
    provider := some .aws
    global := { Config.initial.global with orchName := "d", scale := some .nodes10 } }

def expertFlags : Flags := { Flags.initial with expertMode := true }

theorem accepting_unfit :
    unfitConfig.check = .error (.invalidField "parent domain" Refusal.domainCharacters.message) ∧
      ∃ title, (run .empty installer (.start unfitConfig expertFlags)
        (List.replicate (fields installer).length .accept)).rejections.head? =
          some (title, Refusal.domainCharacters.message) := by
  have refused : unfitConfig.check =
      .error (.invalidField "parent domain" Refusal.domainCharacters.message) := by rfl
  obtain ⟨name, message, title, same, head⟩ :=
    (accepting_agrees_with_check .empty (show unfitConfig.global.scale.isSome = true from rfl) rfl
      (show expertFlags.expertMode = true from rfl) (Nat.le_refl _)).1 _ refused
  cases same
  exact ⟨refused, title, head⟩

end Form.Installer

end InstallerSetup
