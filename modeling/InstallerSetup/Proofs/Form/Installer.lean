import InstallerSetup.Form.Installer
import InstallerSetup.Proofs.Form.Stage
import InstallerSetup.Proofs.Paired

/-!
# What the installer form edits

The fields of the installer form are bound to places of their own (`Installer.table`), so at every
point of a run the place of a settled field holds the accepted answer and all other places hold what
they held in the beginning (`Installer.Faithful`). No field is bound to the list of enabled
applications, to the password or to the switches that a run is started with, and the fields of an
infrastructure are only reached if it is the chosen one.
-/

namespace InstallerSetup.Form

/-! ## Forms whose fields are bound to places -/

/-- The settled fields and the places of their edits come in the order of the form. -/
theorem sublist_zip {fields : List Field} {places : List Place}
    (bound : List.Forall₂ Field.IsBoundTo fields places) {trace : List (Settlement Edit)}
    (ordered : (trace.map Settlement.field).Sublist fields)
    (edits : ∀ step ∈ trace, ∀ place, step.field.IsBoundTo place → step.edit.place = place) :
    (trace.map fun step => (step.field, step.edit.place)).Sublist (fields.zip places) := by
  induction bound generalizing trace with
  | nil =>
      obtain rfl := List.map_eq_nil_iff.1 (List.sublist_nil.1 ordered)
      exact List.Sublist.refl _
  | @cons field place fields places bound_to _ ih =>
      rcases List.sublist_cons_iff.1 ordered with later | ⟨rest, split, later⟩
      · exact (ih later edits).cons _
      · obtain ⟨step, steps, rfl, rfl, rfl⟩ := List.map_eq_cons_iff.1 split
        have same := edits step List.mem_cons_self place bound_to
        have further := ih later fun other member => edits other (List.mem_cons_of_mem _ member)
        rw [List.map_cons, List.zip_cons_cons, same]
        exact further.cons_cons _

theorem Reaches.places_sublist {form : Form} {places : List Place}
    (bound : List.Forall₂ Field.IsBoundTo (fields form) places) {catalog : Catalog} {s : State}
    {answers : List Answer} {trace : List (Settlement Edit)} {stage : Stage}
    (reached : Reaches catalog (.start form s answers) trace stage) :
    (trace.map fun step => (step.field, step.edit.place)).Sublist ((fields form).zip places) := by
  refine sublist_zip bound ?_ fun step member place bound_to => ?_
  · exact (List.sublist_append_left _ _).trans reached.fields_sublist
  · obtain ⟨before, settles⟩ := reached.settles_of_mem member
    exact Field.place_of_settles bound_to settles

/-- What relates the fields of each group to places relates those of the whole form. -/
theorem forall₂_fields {related : Field → Place → Prop} {entries : List (Group × List Place)}
    (each : ∀ entry ∈ entries, List.Forall₂ related entry.1.fields entry.2) :
    List.Forall₂ related (fields (entries.map Prod.fst)) (entries.flatMap Prod.snd) := by
  induction entries with
  | nil => exact .nil
  | cons entry rest ih =>
      obtain ⟨first, others⟩ := List.forall_mem_cons.1 each
      exact List.rel_append first (ih others)

/-- A condition that only edits of some places can break, for a form with a table of places. -/
theorem Reaches.guarded_of_table {entries : List (Group × List Place)}
    (bound : ∀ entry ∈ entries, List.Forall₂ Field.IsBoundTo entry.1.fields entry.2)
    (guard : State → Prop) (allowed : Place → Prop)
    (keeps : ∀ s (edit : Edit), allowed edit.place → guard s → guard (edit.apply s))
    (permits : ∀ entry ∈ entries, ∀ s, guard s → entry.1.isVisible s = true →
      ∀ place ∈ entry.2, allowed place)
    {catalog : Catalog} {s : State} {answers : List Answer} {trace : List (Settlement Edit)}
    {stage : Stage}
    (reached : Reaches catalog (.start (entries.map Prod.fst) s answers) trace stage)
    (holds : guard s) : guard stage.state ∧ ∀ step ∈ trace, allowed step.edit.place := by
  refine Reaches.guarded keeps (fun group member t guarded visible field listed => ?_) reached holds
  obtain ⟨entry, inTable, rfl⟩ := List.mem_map.1 member
  obtain ⟨place, within, bound_to⟩ := exists_partner (bound entry inTable) listed
  exact ⟨place, bound_to, permits entry inTable t guarded visible place within⟩

/-- All settled fields are bound to places of the table. -/
theorem Reaches.allowed_of_table {entries : List (Group × List Place)}
    (bound : ∀ entry ∈ entries, List.Forall₂ Field.IsBoundTo entry.1.fields entry.2)
    (allowed : Place → Prop) (permits : ∀ place ∈ entries.flatMap Prod.snd, allowed place)
    {catalog : Catalog} {s : State} {answers : List Answer} {trace : List (Settlement Edit)}
    {stage : Stage}
    (reached : Reaches catalog (.start (entries.map Prod.fst) s answers) trace stage) :
    ∀ step ∈ trace, allowed step.edit.place := by
  have unguarded := reached.guarded_of_table bound (fun _ => True) allowed
    (fun _ _ _ _ => trivial) fun entry member _ _ _ place within =>
      permits place (List.mem_flatMap.2 ⟨entry, member, within⟩)
  exact (unguarded trivial).2

/-- The way to a stage is one of edits, for a form with a table of places. -/
theorem Reaches.exists_edits_of_table {entries : List (Group × List Place)}
    (bound : ∀ entry ∈ entries, List.Forall₂ Field.IsBoundTo entry.1.fields entry.2)
    {catalog : Catalog} {s : State} {answers : List Answer}
    {trace : List (Settlement (State → State))} {stage : Stage}
    (reached : Reaches catalog (.start (entries.map Prod.fst) s answers) trace stage) :
    ∃ edits : List (Settlement Edit),
      Reaches catalog (.start (entries.map Prod.fst) s answers) edits stage := by
  refine reached.exists_edits fun field listed => ?_
  obtain ⟨place, _, bound_to⟩ := exists_partner (forall₂_fields bound) listed
  exact ⟨place, bound_to⟩

namespace Installer

/-! ## The places of the fields -/

variable {s : State} {catalog : Catalog}

theorem mem_scaleChoices {choice : Choice} (member : choice ∈ scaleChoices s catalog) :
    ∃ scale, choice.setting = .scale (some scale) := by
  obtain ⟨scale, _, rfl⟩ := List.mem_map.1 member
  exact ⟨scale, rfl⟩

theorem mem_providerChoices {choice : Choice} (member : choice ∈ providerChoices s catalog) :
    ∃ provider, choice.setting = .provider (some provider) := by
  obtain ⟨provider, _, rfl⟩ := List.mem_map.1 member
  exact ⟨provider, rfl⟩

theorem mem_modeChoices {choice : Choice} (member : choice ∈ modeChoices s catalog) :
    ∃ mode ∈ offeredModes s, choice.setting = .mode mode := by
  obtain ⟨mode, offered, rfl⟩ := List.mem_map.1 member
  exact ⟨mode, offered, rfl⟩

def table : List (Group × List Place) :=
  [(global, [.text .orchName, .text .parentDomain, .text .adminEmail, .scale]),
    (provider, [.provider]),
    (awsBasic, [.text .awsRegion]),
    (awsGate, [.flag .configureAwsExpert]),
    (awsExpert,
      [.text .awsCustomerTag, .text .awsCacheRegistry, .text .jumpHosts, .text .awsVpcId,
        .flag .awsReduceNsTtl, .text .awsEksDnsIp]),
    (onpremBasic, [.text .argoIp, .text .traefikIp, .text .nginxIp]),
    (onpremGate, [.flag .configureOnpremExpert]),
    (onpremExpert, [.text .dockerUsername, .text .dockerToken]),
    (proxyGate, [.flag .configureProxy]),
    (proxy, [.text .httpProxy, .text .httpsProxy, .text .socksProxy, .text .noProxy]),
    (certGate, [.flag .configureCert]),
    (cert, [.text .tlsCert, .text .tlsKey, .text .tlsCa]),
    (sreGate, [.flag .configureSre]),
    (sre, [.text .sreUsername, .text .srePassword, .text .sreSecretUrl, .text .sreCaSecret]),
    (smtpGate, [.flag .configureSmtp]),
    (smtp,
      [.text .smtpUsername, .text .smtpPassword, .text .smtpUrl, .text .smtpPort,
        .text .smtpSender]),
    (mode, [.mode]),
    (simple, [.list .enabledSimple]),
    (advanced, [.list .enabledAdvanced])]

def places : List Place := table.flatMap Prod.snd

theorem groups_table : table.map Prod.fst = installer := rfl

theorem places_nodup : places.Nodup := by decide

theorem table_bound : ∀ entry ∈ table, List.Forall₂ Field.IsBoundTo entry.1.fields entry.2 := by
  have scale_edits : ∀ s catalog, ∀ choice ∈ scaleChoices s catalog,
      ∃ edit : Edit, edit.place = .scale ∧ edit.apply = choice.setting.store := by
    intro s catalog choice member
    obtain ⟨scale, same⟩ := mem_scaleChoices member
    exact ⟨.scale (some scale), rfl, congrArg Setting.store same.symm⟩
  have provider_edits : ∀ s catalog, ∀ choice ∈ providerChoices s catalog,
      ∃ edit : Edit, edit.place = .provider ∧ edit.apply = choice.setting.store := by
    intro s catalog choice member
    obtain ⟨provider, same⟩ := mem_providerChoices member
    exact ⟨.provider (some provider), rfl, congrArg Setting.store same.symm⟩
  have mode_edits : ∀ s catalog, ∀ choice ∈ modeChoices s catalog,
      ∃ edit : Edit, edit.place = .mode ∧ edit.apply = choice.setting.store := by
    intro s catalog choice member
    obtain ⟨mode, _, same⟩ := mem_modeChoices member
    exact ⟨.mode mode, rfl, congrArg Setting.store same.symm⟩
  simp only [table, List.forall_mem_cons]
  refine ⟨?_, ?_, ?_, ?_, ?_, ?_, ?_, ?_, ?_, ?_, ?_, ?_, ?_, ?_, ?_, ?_, ?_, ?_, ?_,
    List.forall_mem_nil _⟩
  all_goals
    repeat' first | exact List.Forall₂.nil | refine List.Forall₂.cons ?_ ?_
  all_goals
    first | exact ⟨_, rfl, rfl⟩ | assumption

theorem installer_bound : List.Forall₂ Field.IsBoundTo (fields installer) places := by
  rw [← groups_table]
  exact forall₂_fields table_bound

/-! ## What holds at every point of a run -/

section

variable {answers : List Answer} {trace : List (Settlement Edit)} {stage : Stage}

theorem trace_places_sublist (reached : Reaches catalog (.start installer s answers) trace stage) :
    (trace.map fun step => step.edit.place).Sublist places := by
  have ordered := (reached.places_sublist installer_bound).map Prod.snd
  rw [List.map_snd_zip (Nat.le_of_eq installer_bound.length_eq.symm), List.map_map] at ordered
  exact ordered

/-- The place of a settled field holds the accepted answer. -/
theorem content_of_mem (reached : Reaches catalog (.start installer s answers) trace stage)
    {step : Settlement Edit} (member : step ∈ trace) :
    step.edit.place.content stage.state = step.edit := by
  have distinct := (trace_places_sublist reached).nodup places_nodup
  rw [reached.state_eq]
  refine Edit.content_applyAll ?_ (List.mem_map.2 ⟨step, member, rfl⟩) _
  rw [List.map_map]
  exact distinct

/-- What no field is bound to stays as it is. -/
theorem content_of_unbound (reached : Reaches catalog (.start installer s answers) trace stage)
    {place : Place} (unbound : place ∉ places) :
    place.content stage.state = place.content s := by
  refine reached.content_of_notMem fun step member same => unbound ?_
  exact (trace_places_sublist reached).subset (List.mem_map.2 ⟨step, member, same⟩)

end

/-! ## At the end of the form -/

section

variable {t : State} {answers rest : List Answer} {trace : List (Settlement Edit)}

/--
If its group is always shown, a field that takes one of several options has been settled, with an
edit that one of the options makes.
-/
theorem content_of_select
    (reached : Reaches catalog (.start installer s answers) trace ⟨[], [], t, rest⟩)
    {group : Group} (member : group ∈ installer) (always : ∀ u, group.isVisible u = true)
    {field : Field} (listed : field ∈ group.fields)
    {choices : State → Catalog → List Choice} (kind : field.kind = .select choices) :
    ∃ before, ∃ choice ∈ choices before catalog, ∀ edit : Edit,
      edit.apply = choice.setting.store → edit.place.content t = edit := by
  obtain ⟨step, settled, rfl⟩ := reached.settled_of_final member (fun _ _ _ => always _) listed
  obtain ⟨before, settles⟩ := reached.settles_of_mem settled
  obtain ⟨choice, offered, same⟩ := settles.of_select kind
  refine ⟨before, choice, offered, fun edit made => ?_⟩
  obtain rfl : step.edit = edit := Edit.apply_injective (same.trans made.symm)
  exact content_of_mem reached settled

theorem provider_of_final
    (reached : Reaches catalog (.start installer s answers) trace ⟨[], [], t, rest⟩) :
    t.config.provider.isSome = true := by
  have member : provider ∈ installer := by simp [installer]
  obtain ⟨_, choice, offered, content⟩ :=
    content_of_select reached member (fun _ => rfl) List.mem_cons_self rfl
  obtain ⟨p, same⟩ := mem_providerChoices offered
  have chosen := Edit.provider.inj (content (.provider (some p)) (congrArg Setting.store same.symm))
  rw [chosen]
  rfl

theorem scale_of_final
    (reached : Reaches catalog (.start installer s answers) trace ⟨[], [], t, rest⟩) :
    t.config.global.scale.isSome = true := by
  have member : global ∈ installer := by simp [installer]
  have listed : (Field.select "Scale" scaleChoices |>.describe "Select target scale") ∈
      global.fields := by simp [global, Group.always]
  obtain ⟨_, choice, offered, content⟩ :=
    content_of_select reached member (fun _ => rfl) listed rfl
  obtain ⟨scale, same⟩ := mem_scaleChoices offered
  have chosen := Edit.scale.inj (content (.scale (some scale)) (congrArg Setting.store same.symm))
  rw [chosen]
  rfl

end

/-! ## The infrastructure that was not chosen -/

def front : List (Group × List Place) := table.take 2

def back : List (Group × List Place) := table.drop 2

theorem installer_eq_append : installer = front.map Prod.fst ++ back.map Prod.fst := rfl

theorem front_bound : ∀ entry ∈ front, List.Forall₂ Field.IsBoundTo entry.1.fields entry.2 :=
  fun entry member => table_bound entry (List.mem_of_mem_take member)

theorem back_bound : ∀ entry ∈ back, List.Forall₂ Field.IsBoundTo entry.1.fields entry.2 :=
  fun entry member => table_bound entry (List.mem_of_mem_drop member)

theorem provider_apply (edit : Edit) (s : State) (elsewhere : edit.place ≠ .provider) :
    (edit.apply s).config.provider = s.config.provider := by
  have same := edit.content_apply_of_ne s elsewhere
  exact Edit.provider.inj same

/-- The fields up to the choice of the infrastructure belong to none. -/
theorem front_permits (p : Config.Provider) :
    ∀ place ∈ front.flatMap Prod.snd, place.isOf p = false := by
  cases p <;> decide

/-- The fields behind the choice of the infrastructure do not change it. -/
theorem back_permits : ∀ place ∈ back.flatMap Prod.snd, place ≠ .provider := by
  decide

/-- The fields of an infrastructure are hidden unless it is the chosen one. -/
theorem back_permits_of_ne (p : Config.Provider) : ∀ entry ∈ back, ∀ s : State,
    s.config.provider ≠ some p → entry.1.isVisible s = true →
      ∀ place ∈ entry.2, place ≠ .provider ∧ place.isOf p = false := by
  have hidden (s : State) (p : Config.Provider) (other : s.config.provider ≠ some p) :
      (s.config.provider == some p) = false := beq_false_of_ne other
  simp only [back, table, List.drop, List.forall_mem_cons]
  cases p with
  | aws =>
      refine ⟨?_, ?_, ?_, ?_, ?_, ?_, ?_, ?_, ?_, ?_, ?_, ?_, ?_, ?_, ?_, ?_, ?_,
        List.forall_mem_nil _⟩
      all_goals
        intro s other visible
        first
        | decide
        | simp [awsBasic, awsExpert, Group.shownIf, isAws, hidden s .aws other] at visible
  | onprem =>
      refine ⟨?_, ?_, ?_, ?_, ?_, ?_, ?_, ?_, ?_, ?_, ?_, ?_, ?_, ?_, ?_, ?_, ?_,
        List.forall_mem_nil _⟩
      all_goals
        intro s other visible
        first
        | decide
        | simp [onpremBasic, onpremExpert, Group.shownIf, isOnprem, hidden s .onprem other]
            at visible

section

variable {answers : List Answer} {trace : List (Settlement Edit)} {stage : Stage}

/-- The fields of an infrastructure are settled only if it is the chosen one. -/
theorem avoids_of_ne (reached : Reaches catalog (.start installer s answers) trace stage)
    {p : Config.Provider} (other : stage.state.config.provider ≠ some p) :
    ∀ step ∈ trace, step.edit.place.isOf p = false := by
  have front_avoids {rest : List Answer} {steps : List (Settlement Edit)} {last : Stage}
      (inFront : Reaches catalog (.start (front.map Prod.fst) s rest) steps last) :
      ∀ step ∈ steps, step.edit.place.isOf p = false :=
    inFront.allowed_of_table front_bound (fun place => place.isOf p = false) (front_permits p)
  rw [installer_eq_append] at reached
  rcases reached.append with ⟨groups, _, inFront⟩ | ⟨earlier, later, t, rest, rfl, inFront, inBack⟩
  · exact front_avoids inFront
  · -- the choice stands from here on, so it has been another one all the time
    have kept := inBack.allowed_of_table back_bound (fun place => place ≠ .provider) back_permits
    have same := Edit.provider.inj (inBack.content_of_notMem kept)
    have before : t.config.provider ≠ some p := fun chosen => other (same.trans chosen)
    have guarded := inBack.guarded_of_table back_bound (fun u => u.config.provider ≠ some p)
      (fun place => place ≠ .provider ∧ place.isOf p = false)
      (fun u edit permitted differs => provider_apply edit u permitted.1 ▸ differs)
      (back_permits_of_ne p) before
    intro step member
    rcases List.mem_append.1 member with first | second
    · exact front_avoids inFront step first
    · exact (guarded.2 step second).2

/-- The section of an infrastructure that was not chosen stays as it is. -/
theorem content_of_ne (reached : Reaches catalog (.start installer s answers) trace stage)
    {p : Config.Provider} (other : stage.state.config.provider ≠ some p) {place : Place}
    (own : place.isOf p = true) : place.content stage.state = place.content s := by
  refine reached.content_of_notMem fun step member same => ?_
  have apart := avoids_of_ne reached other step member
  rw [same, own] at apart
  cases apart

end

/-! ## The form edits what it asks for -/

/-- What the settled fields have made of the state that a run of the installer form began in. -/
structure Faithful (catalog : Catalog) (s₀ s : State) (trace : List (Settlement Edit)) : Prop where
  /-- The settled fields come in the order of the form, each with an edit of its own place. -/
  bound : (trace.map fun step => (step.field, step.edit.place)).Sublist
    ((fields installer).zip places)
  /-- A field is settled by its answers, in the state that the fields before it have made. -/
  settled : ∀ earlier step later, trace = earlier ++ step :: later →
    step.field.Settles catalog (Change.applyAll s₀ (earlier.map Settlement.edit)) step.given
      step.edit
  stored : ∀ step ∈ trace, step.edit.place.content s = step.edit
  kept : ∀ place : Place, (∀ step ∈ trace, step.edit.place ≠ place) →
    place.content s = place.content s₀
  frame : SameFrame s s₀
  orch : s.config.orch = s₀.config.orch
  jumpHosts : s.config.aws.jumpHostWhitelist = s₀.config.aws.jumpHostWhitelist
  debug : s.flags.debug = s₀.flags.debug
  expertMode : s.flags.expertMode = s₀.flags.expertMode
  aws : (∃ step ∈ trace, step.edit = .provider (some .onprem)) →
    s.config.aws = s₀.config.aws
  onprem : (∃ step ∈ trace, step.edit = .provider (some .aws)) →
    s.config.onprem = s₀.config.onprem

theorem faithful {answers : List Answer} {trace : List (Settlement Edit)} {stage : Stage}
    (reached : Reaches catalog (.start installer s answers) trace stage) :
    Faithful catalog s stage.state trace := by
  have frame : SameFrame stage.state s := reached.sameFrame
  have chosen {p : Config.Provider}
      (picked : ∃ step ∈ trace, step.edit = .provider (some p)) :
      stage.state.config.provider = some p := by
    obtain ⟨step, member, same⟩ := picked
    have content := content_of_mem reached member
    rw [same] at content
    exact Edit.provider.inj content
  constructor
  case bound => exact reached.places_sublist installer_bound
  case settled => exact fun earlier step later => reached.settles_at
  case stored => exact fun step member => content_of_mem reached member
  case kept => exact fun place elsewhere => reached.content_of_notMem elsewhere
  case frame => exact frame
  case orch =>
    refine orch_eq frame ?_ ?_
    · exact content_of_unbound reached (by decide)
    · exact content_of_unbound reached (by decide)
  case jumpHosts =>
    have unbound : Place.list .awsJumpHosts ∉ places := by decide
    exact (Edit.list.inj (content_of_unbound reached unbound)).2
  case debug =>
    have unbound : Place.flag .debug ∉ places := by decide
    exact (Edit.flag.inj (content_of_unbound reached unbound)).2
  case expertMode =>
    have unbound : Place.flag .expertMode ∉ places := by decide
    exact (Edit.flag.inj (content_of_unbound reached unbound)).2
  case aws =>
    intro picked
    have other : stage.state.config.provider ≠ some .aws := by
      rw [chosen picked]
      decide
    exact aws_eq frame fun place own => content_of_ne reached other own
  case onprem =>
    intro picked
    have other : stage.state.config.provider ≠ some .onprem := by
      rw [chosen picked]
      decide
    exact onprem_eq frame fun place own => content_of_ne reached other own

/-- A run that is done has reached the end of the form by edits. -/
theorem reaches_end {answers : List Answer}
    (done : (run catalog installer s answers).result = .ok ()) :
    ∃ trace : List (Settlement Edit), Reaches catalog (.start installer s answers) trace
      ⟨[], [], (run catalog installer s answers).state,
        (run catalog installer s answers).remaining⟩ := by
  obtain ⟨trace, reached⟩ := Form.reaches_end done
  exact reached.exists_edits_of_table table_bound

/--
A run of the installer form stops at one of its stages, and at each of them, which is where the run
with only the answers given so far stops, the state is the first one but for the accepted answers.
-/
theorem run_edits_what_it_asks (catalog : Catalog) (s : State) (answers : List Answer) :
    List.Forall₂ Field.IsBoundTo (fields installer) places ∧ places.Nodup ∧
      (∃ (trace : List (Settlement Edit)) (last : Stage),
        Reaches catalog (.start installer s answers) trace last ∧
          last.Stops catalog (run catalog installer s answers)) ∧
      ∀ (trace : List (Settlement Edit)) (stage : Stage),
        Reaches catalog (.start installer s answers) trace stage →
        answers = trace.flatMap Settlement.given ++ stage.answers ∧
          (run catalog installer s (trace.flatMap Settlement.given)).state = stage.state ∧
          Faithful catalog s stage.state trace := by
  obtain ⟨changes, last, reached, stops⟩ := run_stops catalog installer s answers
  obtain ⟨edits, reached⟩ := reached.exists_edits_of_table table_bound
  refine ⟨installer_bound, places_nodup, ⟨edits, last, reached, stops⟩, ?_⟩
  intro trace stage reached
  exact ⟨reached.answers_eq, reached.state_eq_run, faithful reached⟩

/-- A name is refused, the next one is accepted, and the run is aborted. -/
theorem run_edits_orchName :
    ∃ (step : Settlement Edit) (stage : Stage),
      step.given = [.text "Demo", .text "demo"] ∧ step.edit = .text .orchName "demo" ∧
        Faithful .empty (.start .initial .initial) stage.state [step] := by
  let start : Stage :=
    .start installer (.start .initial .initial) ([.text "Demo", .text "demo"] ++ [])
  have shown : Reaches .empty start ([] : List (Settlement Edit))
      ⟨global.fields.head (List.cons_ne_nil _ _) :: global.fields.tail, installer.tail, start.state,
        start.answers⟩ := Reaches.first.shown rfl
  have settles : (global.fields.head (List.cons_ne_nil _ _)).Settles .empty start.state
      [.text "Demo", .text "demo"] (Edit.text .orchName "demo") :=
    ⟨"demo", .refused rfl rfl (.accepted rfl rfl), rfl⟩
  have edited := run_edits_what_it_asks .empty start.state start.answers
  exact ⟨_, _, rfl, rfl, (edited.2.2.2 _ _ (shown.settled settles)).2.2⟩

end Installer

end InstallerSetup.Form
