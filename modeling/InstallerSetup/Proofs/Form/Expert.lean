import InstallerSetup.Form.Completion
import InstallerSetup.Proofs.Form.Shown

/-!
# Expert mode and answered gates

In expert mode the optional sections are shown without their gates. A passage in expert mode is
followed step by step by one in default mode (`Passes.mirrored`): the gates, which only the second
one has, are answered with yes, and everything else is asked and answered alike. The states on both
sides differ in the switches only (`Mirrors`), and no field reads those.
-/

namespace InstallerSetup.Form

/-! ## States in expert mode and in default mode -/

/-- The second state is in default mode, and otherwise as the first one, which is in expert mode. -/
structure Mirrors (s s' : State) : Prop where
  config : s'.config = s.config
  scratch : s'.scratch = s.scratch
  debug : s'.flags.debug = s.flags.debug
  expert : s.flags.expertMode = true
  asks : s'.flags.expertMode = false

namespace Mirrors

variable {s s' : State}

/-- What does not read the switches is the same on both sides. -/
theorem view_eq {α : Type} (mirrors : Mirrors s s') (view : State → α)
    (switchless : ∀ config scratch flags flags',
      view ⟨config, flags', scratch⟩ = view ⟨config, flags, scratch⟩) : view s' = view s := by
  obtain ⟨config, flags, scratch⟩ := s
  obtain ⟨config', flags', scratch'⟩ := s'
  obtain ⟨rfl, rfl, _, _, _⟩ := mirrors
  exact switchless config' scratch' flags flags'

theorem text (mirrors : Mirrors s s') (place : TextPlace) :
    place.slot.get s' = place.slot.get s :=
  mirrors.view_eq (fun s => place.slot.get s) fun _ _ _ _ => by cases place <;> rfl

/-- The same edit on both sides. -/
theorem apply (mirrors : Mirrors s s') (edit : Edit) (elsewhere : edit.place ≠ .flag .expertMode) :
    Mirrors (edit.apply s) (edit.apply s') := by
  obtain ⟨config, flags, scratch⟩ := s
  obtain ⟨config', flags', scratch'⟩ := s'
  obtain ⟨rfl, rfl, debug, expert, asks⟩ := mirrors
  cases edit with
  | text place value => cases place <;> exact ⟨rfl, rfl, debug, expert, asks⟩
  | flag place value =>
      cases place with
      | expertMode => exact absurd rfl elsewhere
      | debug => exact ⟨rfl, rfl, rfl, expert, asks⟩
      | _ => exact ⟨rfl, rfl, debug, expert, asks⟩
  | list place value => cases place <;> exact ⟨rfl, rfl, debug, expert, asks⟩
  | _ => exact ⟨rfl, rfl, debug, expert, asks⟩

/-- The completion of a form reads no switch. -/
theorem complete (mirrors : Mirrors s s') (catalog : Catalog) :
    (s'.complete catalog).config = (s.complete catalog).config :=
  mirrors.view_eq (fun s => (s.complete catalog).config) fun _ _ _ _ => rfl

end Mirrors

/-! ## Fields that do not tell the modes apart -/

namespace Field

/-- The questions of a field begin with the same value and offer the same options in two states. -/
def LooksAlike (field : Field) (s s' : State) : Prop :=
  match field.kind with
  | .input slot _ _ | .text slot _ => slot.get s' = slot.get s
  | .confirm slot _ _ => slot.get s' = slot.get s
  | .select choices => ∀ catalog, choices s' catalog = choices s catalog
  | .multiSelect items _ _ => ∀ catalog, items s' catalog = items s catalog

/-- A field that looks alike is settled by the same answers, and the same happens. -/
theorem settles_of_looksAlike {field : Field} {s s' : State} (alike : field.LooksAlike s s')
    {ε : Type} [Change ε] {catalog : Catalog} {given : List Answer} {edit : ε}
    (settles : field.Settles catalog s given edit) :
    field.Settles catalog s' given edit ∧
      Settlement.moments ⟨field, given, edit⟩ catalog s' =
        Settlement.moments ⟨field, given, edit⟩ catalog s := by
  unfold Settlement.moments Field.ask
  obtain ⟨info, kind⟩ := field
  cases kind with
  | input slot rule masked =>
      have same : slot.get s' = slot.get s := alike
      simp only [Field.Settles, Outcome.map, same] at settles ⊢
      exact ⟨settles, trivial⟩
  | text slot rule =>
      have same : slot.get s' = slot.get s := alike
      simp only [Field.Settles, Outcome.map, same] at settles ⊢
      exact ⟨settles, trivial⟩
  | confirm slot yes no =>
      have same : slot.get s' = slot.get s := alike
      simp only [Field.Settles, Outcome.map, same] at settles ⊢
      exact ⟨settles, trivial⟩
  | select choices =>
      have same : choices s' catalog = choices s catalog := alike catalog
      simp only [Field.Settles, Outcome.map, same] at settles ⊢
      exact ⟨settles, trivial⟩
  | multiSelect items slot rule =>
      have same : items s' catalog = items s catalog := alike catalog
      simp only [Field.Settles, Outcome.map, same] at settles ⊢
      exact ⟨settles, trivial⟩

/-- A field that looks the same in both modes, and does not switch between them. -/
structure Blind (field : Field) : Prop where
  looks : ∀ s s', Mirrors s s' → field.LooksAlike s s'
  stays : ∃ place, field.IsBoundTo place ∧ place ≠ .flag .expertMode

end Field

variable {catalog : Catalog} {s s' t : State}

/-- The fields of a group are settled in default mode as they are in expert mode. -/
theorem PassesFields.mirrored {fields : List Field} {steps : List (Settlement Edit)}
    {moments : List Moment} (passes : PassesFields catalog fields s steps moments t)
    (blind : ∀ field ∈ fields, field.Blind) (mirrors : Mirrors s s') :
    ∃ t', PassesFields catalog fields s' steps moments t' ∧ Mirrors t t' := by
  induction passes generalizing s' with
  | nil => exact ⟨s', .nil, mirrors⟩
  | @cons field fields s t given edit steps moments settles _ ih =>
      obtain ⟨first, others⟩ := List.forall_mem_cons.1 blind
      obtain ⟨place, bound, elsewhere⟩ := first.stays
      obtain ⟨settles', moments_eq⟩ :=
        Field.settles_of_looksAlike (first.looks s s' mirrors) settles
      rw [← Field.place_of_settles bound settles] at elsewhere
      obtain ⟨t', passes', mirrors'⟩ := ih others (mirrors.apply edit elsewhere)
      refine ⟨t', ?_, mirrors'⟩
      rw [← moments_eq]
      exact .cons settles' passes'

/-! ## Blocks of the installer form -/

/-- A group that both modes have, or an optional section. -/
inductive Block where
  | always (group : Group)
  | optional (part : OptionalSection)

namespace Block

def groups : Block → Form
  | always group => [group]
  | optional part => [part.gate, part.body]

def shared : Block → Group
  | always group => group
  | optional part => part.body

end Block

namespace Installer

def optionalTitles : List String := optionalSections.map fun part => part.body.title

/--
Answers the gates that expert mode leaves out: yes comes in directly before the first answer to each
optional section that begins. Every question of the moments takes one of the answers.
-/
def answerGates : List Moment → List Answer → List Answer
  | [], answers => answers
  | .began title :: moments, answers =>
      if title ∈ optionalTitles then .confirm true :: answerGates moments answers
      else answerGates moments answers
  | .asked _ _ :: moments, answer :: answers => answer :: answerGates moments answers
  | _ :: moments, answers => answerGates moments answers

theorem answerGates_hidden (title : String) (moments : List Moment) (answers : List Answer) :
    answerGates (.hidden title :: moments) answers = answerGates moments answers := rfl

theorem answerGates_again (info : Field.Info) {repeats : List (Failure × Question)}
    {given : List Answer} (count : given.length = repeats.length) (later : List Moment)
    (answers : List Answer) :
    answerGates (repeats.flatMap (again info) ++ later) (given ++ answers) =
      given ++ answerGates later answers := by
  induction repeats generalizing given with
  | nil =>
      obtain rfl := List.eq_nil_of_length_eq_zero count
      rfl
  | cons repeated repeats ih =>
      obtain ⟨answer, given, rfl⟩ := List.exists_cons_of_length_eq_add_one count
      exact congrArg (List.cons answer) (ih (Nat.succ.inj count))

/-- Within a group the answers stay as they are. -/
theorem answerGates_fields {fields : List Field} {steps : List (Settlement Edit)}
    {moments : List Moment}
    (passes : PassesFields catalog fields s steps moments t) (later : List Moment)
    (answers : List Answer) :
    answerGates (moments ++ later) (steps.flatMap Settlement.given ++ answers) =
      steps.flatMap Settlement.given ++ answerGates later answers := by
  induction passes with
  | nil => rfl
  | cons settles _ ih =>
      obtain ⟨first, repeats, moments_eq, count⟩ := Field.moments_of_settles settles
      rw [moments_eq, List.flatMap_cons, List.append_assoc, List.append_assoc, List.append_assoc]
      obtain ⟨answer, others, rfl⟩ := List.exists_cons_of_length_eq_add_one count
      refine congrArg (List.cons answer) ?_
      refine (answerGates_again _ (Nat.succ.inj count) _ _).trans ?_
      exact congrArg (others ++ ·) ih

/-- A group of both modes is shown in both or in none, unless it is an optional section. -/
def Plain : Block → Prop
  | .always group =>
      (∀ s s', Mirrors s s' → group.isVisible s' = group.isVisible s) ∧
        group.title ∉ optionalTitles
  | .optional part => part ∈ optionalSections

/-- The answer of a gate matters in default mode only. -/
theorem mirrors_answered {part : OptionalSection} (member : part ∈ optionalSections)
    (mirrors : Mirrors s s') : Mirrors s (part.place.set s' true) := by
  obtain ⟨config, scratch, debug, expert, asks⟩ := mirrors
  simp only [optionalSections, List.mem_cons, List.not_mem_nil, or_false] at member
  rcases member with rfl | rfl | rfl | rfl | rfl | rfl
  all_goals exact ⟨config, scratch, debug, expert, asks⟩

theorem applies_of_mirrors (part : OptionalSection) (mirrors : Mirrors s s') :
    part.applies s' = part.applies s :=
  mirrors.view_eq part.applies fun _ _ _ _ => rfl

/-- A gate is answered with yes. -/
theorem gate_passes {part : OptionalSection} (lawful : part.Lawful) (catalog : Catalog)
    (s : State) :
    ∃ (steps : List (Settlement Edit)) (moments : List Moment),
      PassesFields catalog part.gate.fields s steps moments (part.place.set s true) ∧
      steps.flatMap Settlement.given = [.confirm true] ∧
      moments.filterMap Moment.rejection? = [] := by
  obtain ⟨info, yes, no, fields_eq⟩ := lawful.gate_asks
  rw [fields_eq]
  have settles : Field.Settles ⟨info, .confirm part.place yes no⟩ catalog s [.confirm true]
      (Edit.flag part.place true) := ⟨true, .accepted rfl rfl, rfl⟩
  exact ⟨_, _, .cons settles .nil, rfl, rfl⟩

/-- A passage in expert mode, and one in default mode with the gates answered. -/
structure Follows (catalog : Catalog) (form : Form) (s' : State) (visits : List (Visit Edit))
    (moments : List Moment) (t : State) (visits' : List (Visit Edit)) (moments' : List Moment)
    (t' : State) : Prop where
  passes : Passes catalog form s' visits' moments' t'
  mirrors : Mirrors t t'
  answers : visits'.flatMap Visit.given = answerGates moments (visits.flatMap Visit.given)
  rejections : moments'.filterMap Moment.rejection? = moments.filterMap Moment.rejection?

namespace Follows

variable {form : Form} {visits visits' : List (Visit Edit)} {moments moments' within : List Moment}
  {t' middle middle' : State} {steps : List (Settlement Edit)} {group : Group}

theorem hidden (invisible : group.isVisible s' = false)
    (follows : Follows catalog form s' visits moments t visits' moments' t') :
    Follows catalog (group :: form) s' visits (.hidden group.title :: moments) t visits'
      (.hidden group.title :: moments') t' where
  passes := .hidden invisible follows.passes
  mirrors := follows.mirrors
  answers := follows.answers
  rejections := follows.rejections

/-- A group of both modes. -/
theorem shown (visible : group.isVisible s' = true) (plain : group.title ∉ optionalTitles)
    (inside : PassesFields catalog group.fields s steps within middle)
    (inside' : PassesFields catalog group.fields s' steps within middle')
    (follows : Follows catalog form middle' visits moments t visits' moments' t') :
    Follows catalog (group :: form) s' (⟨group, steps⟩ :: visits)
      (.began group.title :: (within ++ moments)) t (⟨group, steps⟩ :: visits')
      (.began group.title :: (within ++ moments')) t' where
  passes := .shown visible inside' follows.passes
  mirrors := follows.mirrors
  answers := by
    rw [List.flatMap_cons, List.flatMap_cons, answerGates, if_neg plain, Visit.given,
      answerGates_fields inside, follows.answers]
  rejections := by
    rw [List.filterMap_cons_none rfl, List.filterMap_cons_none rfl, List.filterMap_append,
      List.filterMap_append, follows.rejections]

/-- The body of an optional section, in front of which default mode has the gate. -/
theorem opened {part : OptionalSection} (lawful : part.Lawful)
    (titled : part.body.title ∈ optionalTitles) (asked : part.gate.isVisible s' = true)
    (visible : part.body.isVisible (part.place.set s' true) = true)
    (inside : PassesFields catalog part.body.fields s steps within middle)
    (inside' : PassesFields catalog part.body.fields (part.place.set s' true) steps within middle')
    (follows : Follows catalog form middle' visits moments t visits' moments' t') :
    ∃ visits' moments', Follows catalog (part.gate :: part.body :: form) s'
      (⟨part.body, steps⟩ :: visits)
      (.hidden part.gate.title :: .began part.body.title :: (within ++ moments)) t
      visits' moments' t' := by
  obtain ⟨answered, asking, gate_inside, given_eq, silent⟩ := gate_passes lawful catalog s'
  refine ⟨_, _, .shown asked gate_inside (.shown visible inside' follows.passes),
    follows.mirrors, ?_, ?_⟩
  · rw [List.flatMap_cons, List.flatMap_cons, List.flatMap_cons, answerGates_hidden, answerGates,
      if_pos titled, Visit.given, given_eq, Visit.given, answerGates_fields inside,
      follows.answers]
    rfl
  · rw [List.filterMap_cons_none rfl, List.filterMap_append, silent, List.nil_append,
      List.filterMap_cons_none rfl, List.filterMap_cons_none rfl, List.filterMap_cons_none rfl,
      List.filterMap_append, List.filterMap_append, follows.rejections]

end Follows

/-- A passage in expert mode is followed by one in default mode, block by block. -/
theorem exists_follows {blocks : List Block} (plain : ∀ block ∈ blocks, Plain block)
    (blind : ∀ block ∈ blocks, ∀ field ∈ block.shared.fields, field.Blind)
    {visits : List (Visit Edit)} {moments : List Moment}
    (passes : Passes catalog (blocks.flatMap Block.groups) s visits moments t)
    (mirrors : Mirrors s s') :
    ∃ visits' moments' t', Follows catalog (blocks.flatMap Block.groups) s' visits moments t
      visits' moments' t' := by
  induction blocks generalizing s s' visits moments with
  | nil =>
      cases passes
      exact ⟨[], [], s', .nil, mirrors, rfl, rfl⟩
  | cons block blocks ih =>
      obtain ⟨first, others⟩ := List.forall_mem_cons.1 plain
      obtain ⟨fields_blind, others_blind⟩ := List.forall_mem_cons.1 blind
      cases block with
      | always group =>
          obtain ⟨same, untitled⟩ := first
          have visible_eq := same s s' mirrors
          cases passes with
          | hidden invisible later =>
              obtain ⟨_, _, _, follows⟩ := ih others others_blind later mirrors
              exact ⟨_, _, _, follows.hidden (visible_eq.trans invisible)⟩
          | shown visible inside later =>
              obtain ⟨middle', inside', mirrors'⟩ := inside.mirrored fields_blind mirrors
              obtain ⟨_, _, _, follows⟩ := ih others others_blind later mirrors'
              exact ⟨_, _, _, follows.shown (visible_eq.trans visible) untitled inside inside'⟩
      | optional part =>
          have member : part ∈ optionalSections := first
          have lawful := optionalSections_lawful part member
          have applies_eq := applies_of_mirrors part mirrors
          have gateless : part.gate.isVisible s = false := by
            rw [lawful.gate_visible, mirrors.expert, Bool.not_true, Bool.and_false]
          have body_eq : part.body.isVisible s = part.applies s := by
            rw [lawful.body_visible, mirrors.expert, Bool.true_or, Bool.and_true]
          -- expert mode leaves the gate out, and shows the body if the section applies at all
          cases passes with
          | shown visible _ _ => exact absurd visible (by rw [gateless]; decide)
          | hidden _ behind =>
              cases behind with
              | hidden invisible later =>
                  have unrelated : part.applies s' = false := by
                    rw [applies_eq, ← body_eq, invisible]
                  obtain ⟨_, _, _, follows⟩ := ih others others_blind later mirrors
                  have bodiless : part.body.isVisible s' = false := by
                    rw [lawful.body_visible, unrelated, Bool.false_and]
                  have gateless' : part.gate.isVisible s' = false := by
                    rw [lawful.gate_visible, unrelated, Bool.false_and]
                  exact ⟨_, _, _, (follows.hidden bodiless).hidden gateless'⟩
              | shown visible inside later =>
                  have related : part.applies s' = true := by
                    rw [applies_eq, ← body_eq, visible]
                  have answered := mirrors_answered member mirrors
                  obtain ⟨middle', inside', mirrors'⟩ := inside.mirrored fields_blind answered
                  obtain ⟨_, _, _, follows⟩ := ih others others_blind later mirrors'
                  have titled : part.body.title ∈ optionalTitles :=
                    List.mem_map.2 ⟨part, member, rfl⟩
                  have asked : part.gate.isVisible s' = true := by
                    rw [lawful.gate_visible, related, mirrors.asks]
                    rfl
                  have set : part.place.get (part.place.set s' true) = true :=
                    part.place.slot.get_set s' true
                  have visible' : part.body.isVisible (part.place.set s' true) = true := by
                    rw [lawful.body_visible, applies_of_mirrors part answered, ← body_eq, visible,
                      set, Bool.or_true]
                    rfl
                  obtain ⟨visits', moments', opened⟩ :=
                    follows.opened lawful titled asked visible' inside inside'
                  exact ⟨visits', moments', _, opened⟩

/-! ## The installer form in blocks -/

def blocks : List Block :=
  [.always global, .always provider, .always awsBasic,
    .optional ⟨awsGate, awsExpert, .configureAwsExpert, some .aws⟩, .always onpremBasic,
    .optional ⟨onpremGate, onpremExpert, .configureOnpremExpert, some .onprem⟩,
    .optional ⟨proxyGate, proxy, .configureProxy, none⟩,
    .optional ⟨certGate, cert, .configureCert, none⟩,
    .optional ⟨sreGate, sre, .configureSre, none⟩,
    .optional ⟨smtpGate, smtp, .configureSmtp, none⟩,
    .always mode, .always simple, .always advanced]

theorem groups_blocks : blocks.flatMap Block.groups = installer := rfl

theorem blocks_plain : ∀ block ∈ blocks, Plain block := by
  simp only [blocks, List.forall_mem_cons]
  refine ⟨?_, ?_, ?_, ?_, ?_, ?_, ?_, ?_, ?_, ?_, ?_, ?_, ?_, List.forall_mem_nil _⟩
  all_goals
    first
    | exact ⟨fun _ _ mirrors => mirrors.view_eq _ fun _ _ _ _ => rfl, by decide +kernel⟩
    | simp [Plain, optionalSections]

/-- What the fields of both modes show does not depend on the switches. -/
theorem looksAlike : ∀ block ∈ blocks, ∀ field ∈ block.shared.fields,
    ∀ s s', Mirrors s s' → field.LooksAlike s s' := by
  have scale_alike : ∀ s s', Mirrors s s' →
      ∀ catalog, scaleChoices s' catalog = scaleChoices s catalog := fun _ _ mirrors catalog =>
    mirrors.view_eq (fun s => scaleChoices s catalog) fun _ _ _ _ => rfl
  have provider_alike : ∀ s s', Mirrors s s' →
      ∀ catalog, providerChoices s' catalog = providerChoices s catalog :=
    fun _ _ mirrors catalog =>
      mirrors.view_eq (fun s => providerChoices s catalog) fun _ _ _ _ => rfl
  have mode_alike : ∀ s s', Mirrors s s' →
      ∀ catalog, modeChoices s' catalog = modeChoices s catalog := fun _ _ mirrors catalog =>
    mirrors.view_eq (fun s => modeChoices s catalog) fun _ _ _ _ => rfl
  have apps_alike : ∀ s s', Mirrors s s' →
      ∀ catalog, appItems s' catalog = appItems s catalog := fun _ _ mirrors catalog =>
    mirrors.view_eq (fun s => appItems s catalog) fun _ _ _ _ => rfl
  have ttl_alike : ∀ s s', Mirrors s s' →
      FlagPlace.awsReduceNsTtl.slot.get s' = FlagPlace.awsReduceNsTtl.slot.get s :=
    fun _ _ mirrors =>
      mirrors.view_eq (fun s => FlagPlace.awsReduceNsTtl.slot.get s) fun _ _ _ _ => rfl
  simp only [blocks, List.forall_mem_cons, Block.shared]
  refine ⟨?_, ?_, ?_, ?_, ?_, ?_, ?_, ?_, ?_, ?_, ?_, ?_, ?_, List.forall_mem_nil _⟩
  all_goals
    repeat' first | exact List.forall_mem_nil _ | refine List.forall_mem_cons.2 ⟨?_, ?_⟩
  all_goals
    first | assumption | exact fun _ _ _ _ => rfl | exact fun _ _ mirrors => mirrors.text _

/-- The fields of both modes are bound to other places than the expert mode. -/
theorem blocks_blind : ∀ block ∈ blocks, ∀ field ∈ block.shared.fields, field.Blind := by
  intro block member field listed
  refine ⟨looksAlike block member field listed, ?_⟩
  have inBlock : block.shared ∈ block.groups := by
    cases block <;> simp [Block.shared, Block.groups]
  have inForm : field ∈ fields installer := by
    rw [← groups_blocks]
    exact List.mem_flatMap.2 ⟨_, List.mem_flatMap.2 ⟨block, member, inBlock⟩, listed⟩
  obtain ⟨place, within, bound_to⟩ := exists_partner installer_bound inForm
  have unbound : Place.flag .expertMode ∉ places := by decide
  exact ⟨place, bound_to, fun same => unbound (same ▸ within)⟩

/-- The run of the form in default mode with the gates answered. -/
theorem run_answerGates {answers : List Answer} {report : Report} (mirrors : Mirrors s s')
    (ran : run catalog installer s answers = report) (done : report.result = .ok ())
    (spent : report.remaining = []) :
    ∃ moments' t', run catalog installer s' (answerGates report.moments answers) =
        ⟨moments', [], t', .ok ()⟩ ∧
      Mirrors report.state t' ∧ moments'.filterMap Moment.rejection? = report.rejections := by
  subst ran
  obtain ⟨trace, reached⟩ := reaches_end done
  obtain ⟨visits, _, answers_eq, passes⟩ := passes_of_reaches reached
  rw [spent, List.append_nil] at answers_eq
  rw [← groups_blocks] at passes
  obtain ⟨visits', moments', t', follows⟩ :=
    exists_follows blocks_plain blocks_blind passes mirrors
  have ran' := follows.passes.run_eq []
  rw [List.append_nil, follows.answers, groups_blocks, ← answers_eq] at ran'
  exact ⟨moments', t', ran', follows.mirrors, follows.rejections⟩

end Installer

end InstallerSetup.Form
