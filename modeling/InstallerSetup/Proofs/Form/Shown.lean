import InstallerSetup.Proofs.Form.Installer
import InstallerSetup.Proofs.Form.Passage
import Mathlib.Data.List.Nodup

/-!
# The groups that are shown

Whether a group is shown is decided when it is reached, while later groups still edit the state. In
a form whose conditions read only places that no group at or behind them edits (`Steady`) the
decision stands: the groups that were shown are those that are visible in the end
(`Passes.groups_eq`). The installer form is of this kind, so the final state tells which of its
groups were shown.
-/

namespace InstallerSetup.Form

/-! ## Outlines -/

def Group.outline (group : Group) : String × List String :=
  (group.title, group.fields.map fun field => field.info.title)

/--
The titles of the fields that are asked for before the next group, and the groups that begin, each
with the titles of the fields that are asked for in it. A question that is repeated because its
answer was refused does not count again.
-/
def outlines : List Moment → List String × List (String × List String)
  | [] => ([], [])
  | .began title :: rest => ([], (title, (outlines rest).1) :: (outlines rest).2)
  | .refused _ _ :: .asked _ _ :: rest => outlines rest
  | .asked info _ :: rest => (info.title :: (outlines rest).1, (outlines rest).2)
  | _ :: rest => outlines rest

def Report.outline (r : Report) : List (String × List String) := (outlines r.moments).2

/-- The titles that a report lists are those of the groups that were shown. -/
theorem Report.groups_eq (r : Report) :
    r.groups = r.outline.map fun shown => Text.trim shown.1 := by
  unfold groups outline
  generalize r.moments = moments
  induction moments using outlines.induct with
  | case1 => rfl
  | case2 title rest ih => exact congrArg (List.cons _) ih
  | case3 info failure info' question rest ih => exact ih
  | case4 info question rest ih => exact ih
  | case5 moment rest notBegan notRepeated notAsked ih =>
      rw [outlines.eq_5 _ _ notBegan notRepeated notAsked, ← ih]
      cases moment with
      | began title => exact absurd rfl (notBegan title)
      | _ => rfl

theorem outlines_again (info : Field.Info) (repeats : List (Failure × Question))
    (later : List Moment) : outlines (repeats.flatMap (again info) ++ later) = outlines later := by
  induction repeats with
  | nil => rfl
  | cons repeated repeats ih => exact ih

variable {ε : Type} [Change ε] {catalog : Catalog} {s t : State}

theorem PassesFields.outlines_eq {fields : List Field} {steps : List (Settlement ε)}
    {moments : List Moment} (passes : PassesFields catalog fields s steps moments t)
    (later : List Moment) :
    outlines (moments ++ later) =
      (fields.map (fun field => field.info.title) ++ (outlines later).1, (outlines later).2) := by
  induction passes with
  | nil => rfl
  | @cons field fields s t given edit steps moments settles _ ih =>
      obtain ⟨first, repeats, moments_eq, _⟩ := Field.moments_of_settles settles
      have questions (more : List Moment) :
          outlines ((.asked field.info first :: repeats.flatMap (again field.info)) ++ more) =
            (field.info.title :: (outlines more).1, (outlines more).2) := by
        rw [List.cons_append, outlines, outlines_again]
      rw [moments_eq, List.append_assoc, questions, ih]
      rfl

section

variable {form : Form} {visits : List (Visit ε)} {moments : List Moment}

/-- The moments of a passage show the groups that are visited. -/
theorem Passes.outlines_eq (passes : Passes catalog form s visits moments t) :
    outlines moments = ([], visits.map fun visit => visit.group.outline) := by
  induction passes with
  | nil => rfl
  | hidden _ _ ih => exact ih
  | shown _ inside _ ih =>
      rw [outlines, inside.outlines_eq, ih, List.append_nil]
      rfl

theorem PassesFields.fields_eq {fields : List Field} {steps : List (Settlement ε)}
    (passes : PassesFields catalog fields s steps moments t) :
    steps.map Settlement.field = fields := by
  induction passes with
  | nil => rfl
  | cons _ _ ih => exact congrArg (List.cons _) ih

/-- In a group that is visited all its fields are settled. -/
theorem Passes.fields_of_mem (passes : Passes catalog form s visits moments t) :
    ∀ visit ∈ visits, visit.steps.map Settlement.field = visit.group.fields := by
  induction passes with
  | nil => exact fun _ impossible => nomatch impossible
  | hidden _ _ ih => exact ih
  | shown _ inside _ ih => exact List.forall_mem_cons.2 ⟨inside.fields_eq, ih⟩

end

/-! ## Conditions that stand -/

/-- A condition reads no other places than these. -/
def DependsOn (condition : State → Bool) (reads : List Place) : Prop :=
  ∀ s t, (∀ place ∈ reads, place.content s = place.content t) → condition s = condition t

namespace DependsOn

theorem nothing (value : Bool) : DependsOn (fun _ => value) [] := fun _ _ _ => rfl

theorem flag (place : FlagPlace) : DependsOn place.get [.flag place] := fun _ _ same =>
  (Edit.flag.inj (same (.flag place) List.mem_cons_self)).2

theorem provider (p : Config.Provider) :
    DependsOn (fun s => s.config.provider == some p) [.provider] := fun _ _ same =>
  congrArg (· == some p)
    (Edit.provider.inj (same .provider List.mem_cons_self))

theorem mode (m : Mode) : DependsOn (fun s => s.scratch.mode == m) [.mode] := fun _ _ same =>
  congrArg (· == m) (Edit.mode.inj (same .mode List.mem_cons_self))

variable {condition other : State → Bool} {reads more : List Place}

theorem not (depends : DependsOn condition reads) : DependsOn (fun s => !condition s) reads :=
  fun s t same => congrArg Bool.not (depends s t same)

theorem and (depends : DependsOn condition reads) (depends' : DependsOn other more) :
    DependsOn (fun s => condition s && other s) (reads ++ more) := fun s t same =>
  congrArg₂ Bool.and (depends s t fun place member => same place (List.mem_append_left _ member))
    (depends' s t fun place member => same place (List.mem_append_right _ member))

theorem or (depends : DependsOn condition reads) (depends' : DependsOn other more) :
    DependsOn (fun s => condition s || other s) (reads ++ more) := fun s t same =>
  congrArg₂ Bool.or (depends s t fun place member => same place (List.mem_append_left _ member))
    (depends' s t fun place member => same place (List.mem_append_right _ member))

end DependsOn

/-- The condition of each group reads only places that neither it nor a group behind it edits. -/
inductive Steady : List (Group × List Place) → Prop where
  | nil : Steady []
  | cons {entry : Group × List Place} {rest : List (Group × List Place)} (reads : List Place)
      (depends : DependsOn entry.1.isVisible reads)
      (apart : ∀ place ∈ reads, place ∉ (entry :: rest).flatMap Prod.snd) (later : Steady rest) :
      Steady (entry :: rest)

/-- A passage leaves the places as they are that no field of its form is bound to. -/
theorem Passes.content_of_notMem {entries : List (Group × List Place)} {visits : List (Visit Edit)}
    {moments : List Moment}
    (passes : Passes catalog (entries.map Prod.fst) s visits moments t)
    (bound : ∀ entry ∈ entries, List.Forall₂ Field.IsBoundTo entry.1.fields entry.2)
    {place : Place} (apart : place ∉ entries.flatMap Prod.snd) :
    place.content t = place.content s := by
  have reached := passes.reaches []
  refine reached.content_of_notMem ?_
  exact reached.allowed_of_table bound (· ≠ place) fun other member same => apart (same ▸ member)

/-- In a steady form the groups that are shown are those that are visible in the end. -/
theorem Passes.groups_eq {entries : List (Group × List Place)} (steady : Steady entries)
    (bound : ∀ entry ∈ entries, List.Forall₂ Field.IsBoundTo entry.1.fields entry.2)
    {visits : List (Visit Edit)} {moments : List Moment}
    (passes : Passes catalog (entries.map Prod.fst) s visits moments t) :
    visits.map Visit.group = (entries.map Prod.fst).filter fun group => group.isVisible t := by
  induction steady generalizing s visits moments with
  | nil =>
      cases passes
      rfl
  | @cons entry rest reads depends apart _ ih =>
      have bound_rest := fun other member => bound other (List.mem_cons_of_mem entry member)
      -- what decides about this group is what it will be in the end
      have decided : entry.1.isVisible t = entry.1.isVisible s :=
        depends t s fun place member => passes.content_of_notMem bound (apart place member)
      generalize whole : (entry :: rest).map Prod.fst = form at passes
      cases passes with
      | nil => cases whole
      | hidden invisible later =>
          obtain ⟨rfl, rfl⟩ := List.cons.inj whole
          rw [List.filter_cons_of_neg (by rw [decided, invisible]; decide)]
          exact ih bound_rest later
      | shown visible inside later =>
          obtain ⟨rfl, rfl⟩ := List.cons.inj whole
          rw [List.filter_cons_of_pos (by rw [decided, visible])]
          exact congrArg (List.cons _) (ih bound_rest later)

/-! ## Optional sections -/

structure OptionalSection where
  gate : Group
  body : Group
  /-- Where the answer of the gate goes. -/
  place : FlagPlace
  /-- The infrastructure that the section belongs to, unless it belongs to all. -/
  provider : Option Config.Provider

namespace OptionalSection

def applies (part : OptionalSection) (s : State) : Bool :=
  part.provider.all fun p => s.config.provider == some p

def Answered (part : OptionalSection) (trace : List (Settlement Edit)) : Prop :=
  ∃ step ∈ trace, step.field ∈ part.gate.fields ∧ step.edit = .flag part.place true

/-- The gate asks one question, unless in expert mode, and the body is behind it. -/
structure Lawful (part : OptionalSection) : Prop where
  gate_visible : ∀ s, part.gate.isVisible s = (part.applies s && !s.flags.expertMode)
  body_visible : ∀ s, part.body.isVisible s =
    (part.applies s && (s.flags.expertMode || part.place.get s))
  gate_asks : ∃ info yes no, part.gate.fields = [⟨info, .confirm part.place yes no⟩]

end OptionalSection

namespace Installer

def optionalSections : List OptionalSection :=
  [⟨awsGate, awsExpert, .configureAwsExpert, some .aws⟩,
    ⟨onpremGate, onpremExpert, .configureOnpremExpert, some .onprem⟩,
    ⟨proxyGate, proxy, .configureProxy, none⟩,
    ⟨certGate, cert, .configureCert, none⟩,
    ⟨sreGate, sre, .configureSre, none⟩,
    ⟨smtpGate, smtp, .configureSmtp, none⟩]

theorem optionalSections_lawful : ∀ part ∈ optionalSections, part.Lawful := by
  simp only [optionalSections, List.forall_mem_cons]
  refine ⟨?_, ?_, ?_, ?_, ?_, ?_, List.forall_mem_nil _⟩
  all_goals exact ⟨fun _ => rfl, fun _ => rfl, _, _, _, rfl⟩

theorem mem_of_optionalSections : ∀ part ∈ optionalSections,
    part.gate ∈ installer ∧ part.body ∈ installer := by
  simp [optionalSections, installer]

/-! ## The groups of the installer form -/

/--
The conditions read the infrastructure, the mode, the expert mode and the answer of the gate in
front of the group, all of which stand by then.
-/
theorem table_steady : Steady table := by
  have open_in (place : FlagPlace) : DependsOn
      (fun s => FlagPlace.expertMode.get s || place.get s) ([.flag .expertMode] ++ [.flag place]) :=
    (DependsOn.flag .expertMode).or (.flag place)
  have gate_shown := (DependsOn.flag .expertMode).not
  have always := DependsOn.nothing true
  refine .cons _ always (by decide) ?_
  refine .cons _ always (by decide) ?_
  refine .cons _ (.provider .aws) (by decide) ?_
  refine .cons _ ((DependsOn.provider .aws).and gate_shown) (by decide) ?_
  refine .cons _ ((DependsOn.provider .aws).and (open_in .configureAwsExpert)) (by decide) ?_
  refine .cons _ (.provider .onprem) (by decide) ?_
  refine .cons _ ((DependsOn.provider .onprem).and gate_shown) (by decide) ?_
  refine .cons _ ((DependsOn.provider .onprem).and (open_in .configureOnpremExpert)) (by decide) ?_
  refine .cons _ gate_shown (by decide) ?_
  refine .cons _ (open_in .configureProxy) (by decide) ?_
  refine .cons _ gate_shown (by decide) ?_
  refine .cons _ (open_in .configureCert) (by decide) ?_
  refine .cons _ gate_shown (by decide) ?_
  refine .cons _ (open_in .configureSre) (by decide) ?_
  refine .cons _ gate_shown (by decide) ?_
  refine .cons _ (open_in .configureSmtp) (by decide) ?_
  refine .cons _ always (by decide) ?_
  refine .cons _ (.mode .simple) (by decide) ?_
  exact .cons _ (.mode .advanced) (by decide) .nil

theorem outlines_nodup : (installer.map Group.outline).Nodup := by decide +kernel

section

variable {answers rest : List Answer} {trace : List (Settlement Edit)}

theorem outline_eq_visible
    (reached : Reaches catalog (.start installer s answers) trace ⟨[], [], t, rest⟩) :
    (run catalog installer s answers).outline =
      (installer.filter fun group => group.isVisible t).map Group.outline := by
  obtain ⟨visits, _, _, passes⟩ := passes_of_reaches reached
  have groups := Passes.groups_eq table_steady table_bound passes
  rw [groups_table] at groups
  unfold Report.outline
  rw [passes.outlines_eq, ← groups, List.map_map]
  rfl

/-- A group has been shown if and only if it is visible in the end. -/
theorem mem_outline_iff
    (reached : Reaches catalog (.start installer s answers) trace ⟨[], [], t, rest⟩)
    {group : Group} (member : group ∈ installer) :
    group.outline ∈ (run catalog installer s answers).outline ↔ group.isVisible t = true := by
  rw [outline_eq_visible reached]
  constructor
  · intro shown
    obtain ⟨other, found, same⟩ := List.mem_map.1 shown
    obtain ⟨inForm, visible⟩ := List.mem_filter.1 found
    rw [← List.inj_on_of_nodup_map outlines_nodup inForm member same]
    exact visible
  · exact fun visible => List.mem_map.2 ⟨group, List.mem_filter.2 ⟨member, visible⟩, rfl⟩

/-- The fields of a group that is visible in the end have been settled. -/
theorem settled_of_visible
    (reached : Reaches catalog (.start installer s answers) trace ⟨[], [], t, rest⟩)
    {group : Group} (member : group ∈ installer) (visible : group.isVisible t = true)
    {field : Field} (listed : field ∈ group.fields) : ∃ step ∈ trace, step.field = field := by
  obtain ⟨visits, rfl, _, passes⟩ := passes_of_reaches reached
  have groups := Passes.groups_eq table_steady table_bound passes
  have shown : group ∈ visits.map Visit.group := by
    rw [groups, groups_table]
    exact List.mem_filter.2 ⟨member, visible⟩
  obtain ⟨visit, visited, rfl⟩ := List.mem_map.1 shown
  rw [← passes.fields_of_mem visit visited] at listed
  obtain ⟨step, settled, same⟩ := List.mem_map.1 listed
  exact ⟨step, List.mem_flatMap.2 ⟨visit, visited, settled⟩, same⟩

/-- If a gate is visible in the end, its place holds what has been answered. -/
theorem answered_iff
    (reached : Reaches catalog (.start installer s answers) trace ⟨[], [], t, rest⟩)
    {part : OptionalSection} (member : part ∈ optionalSections)
    (asked : part.gate.isVisible t = true) : part.Answered trace ↔ part.place.get t = true := by
  obtain ⟨info, yes, no, fields_eq⟩ := (optionalSections_lawful part member).gate_asks
  constructor
  · rintro ⟨step, settled, _, edit_eq⟩
    have content := content_of_mem reached settled
    rw [edit_eq] at content
    exact (Edit.flag.inj content).2
  · intro answer
    have listed : ⟨info, .confirm part.place yes no⟩ ∈ part.gate.fields :=
      fields_eq ▸ List.mem_cons_self
    obtain ⟨step, settled, same⟩ :=
      settled_of_visible reached (mem_of_optionalSections part member).1 asked listed
    obtain ⟨before, settles⟩ := reached.settles_of_mem settled
    have bound : step.field.IsBoundTo (.flag part.place) := by
      rw [same]
      exact ⟨_, rfl, rfl⟩
    have place : step.edit.place = .flag part.place := Field.place_of_settles bound settles
    have content := content_of_mem reached settled
    rw [place] at content
    refine ⟨step, settled, same ▸ listed, ?_⟩
    rw [← content, ← answer]
    rfl

end

/--
The groups that a run shows are, in order, those that are visible in its final state. So the basic
group of the chosen infrastructure is shown and the other one is not, the applications are selected
as the mode says, and of the optional sections that apply those are shown that were asked for at
their gates, or all of them, without gates, in expert mode.
-/
theorem shown_groups {answers : List Answer} {report : Report}
    (ran : run catalog installer s answers = report) (done : report.result = .ok ()) :
    ∃ trace : List (Settlement Edit),
      Reaches catalog (.start installer s answers) trace
        ⟨[], [], report.state, report.remaining⟩ ∧
      report.outline =
        (installer.filter fun group => group.isVisible report.state).map Group.outline ∧
      report.groups =
        (installer.filter fun group => group.isVisible report.state).map
          (fun group => Text.trim group.title) ∧
      (∃ p, report.state.config.provider = some p ∧
        (awsBasic.outline ∈ report.outline ↔ p = .aws) ∧
        (onpremBasic.outline ∈ report.outline ↔ p = .onprem)) ∧
      (simple.outline ∈ report.outline ↔ report.state.scratch.mode = .simple) ∧
      (advanced.outline ∈ report.outline ↔ report.state.scratch.mode = .advanced) ∧
      ∀ part ∈ optionalSections,
        (part.body.outline ∈ report.outline ↔
          part.applies report.state = true ∧ (s.flags.expertMode = true ∨ part.Answered trace)) ∧
        (s.flags.expertMode = true → part.gate.outline ∉ report.outline) := by
  subst ran
  obtain ⟨trace, reached⟩ := reaches_end done
  refine ⟨trace, reached, outline_eq_visible reached, ?_, ?_, ?_, ?_, ?_⟩
  · rw [Report.groups_eq, outline_eq_visible reached, List.map_map]
    rfl
  · obtain ⟨p, chosen⟩ := Option.isSome_iff_exists.1 (provider_of_final reached)
    refine ⟨p, chosen, ?_, ?_⟩
    · rw [mem_outline_iff reached (by simp [installer])]
      change (_ == some Config.Provider.aws) = true ↔ _
      rw [beq_iff_eq, chosen, Option.some_inj]
    · rw [mem_outline_iff reached (by simp [installer])]
      change (_ == some Config.Provider.onprem) = true ↔ _
      rw [beq_iff_eq, chosen, Option.some_inj]
  · rw [mem_outline_iff reached (by simp [installer])]
    exact beq_iff_eq
  · rw [mem_outline_iff reached (by simp [installer])]
    exact beq_iff_eq
  · intro part member
    have lawful := optionalSections_lawful part member
    obtain ⟨gate_member, body_member⟩ := mem_of_optionalSections part member
    have expert := (faithful reached).expertMode
    rw [mem_outline_iff reached body_member, mem_outline_iff reached gate_member,
      lawful.body_visible, lawful.gate_visible, Bool.and_eq_true, Bool.or_eq_true, expert]
    refine ⟨and_congr_right fun applies => ?_, fun on => by simp [on]⟩
    cases mode : s.flags.expertMode with
    | true => simp
    | false =>
        have asked : part.gate.isVisible (run catalog installer s answers).state = true := by
          rw [lawful.gate_visible, applies, expert, mode]
          rfl
        rw [answered_iff reached member asked]

def proxyAnswers : List Answer :=
  [.text "d", .text "d", .text "d@d.dd", .accept, .choose 1] ++ List.replicate 3 (.text "1.1.1.1") ++
    [.accept, .confirm true] ++ List.replicate 7 .accept ++ [.choose 1, .accept]

theorem shown_groups_of_proxy :
    (run .empty installer (.start .initial .initial) proxyAnswers).result = .ok () ∧
      (run .empty installer (.start .initial .initial) proxyAnswers).outline =
        [global, provider, onpremBasic, onpremGate, proxyGate, proxy, certGate, sreGate, smtpGate,
          mode, advanced].map Group.outline ∧
      ∃ (trace : List (Settlement Edit)) (t : State) (rest : List Answer),
        Reaches .empty (.start installer (.start .initial .initial) proxyAnswers) trace
          ⟨[], [], t, rest⟩ ∧
        ∃ step ∈ trace, step.field ∈ proxyGate.fields ∧ step.edit = .flag .configureProxy true := by
  have done : (run .empty installer (.start .initial .initial) proxyAnswers).result = .ok () :=
    Except.eq_ok_of_toOption (by decide +kernel)
  have outline_eq : (run .empty installer (.start .initial .initial) proxyAnswers).outline =
      [global, provider, onpremBasic, onpremGate, proxyGate, proxy, certGate, sreGate, smtpGate,
        mode, advanced].map Group.outline := by decide +kernel
  obtain ⟨trace, reached, _, _, _, _, _, sections⟩ := shown_groups rfl done
  obtain ⟨shown_iff, _⟩ := sections ⟨proxyGate, proxy, .configureProxy, none⟩
    (by simp [optionalSections])
  have shown : proxy.outline ∈
      (run .empty installer (.start .initial .initial) proxyAnswers).outline := by
    rw [outline_eq]
    decide +kernel
  have answered := (shown_iff.1 shown).2.resolve_left (by decide)
  exact ⟨done, outline_eq, trace, _, _, reached, answered⟩

end Installer

end InstallerSetup.Form
