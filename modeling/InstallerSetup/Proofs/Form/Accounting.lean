import InstallerSetup.Proofs.Form.Interview
import InstallerSetup.Proofs.Form.Shown

/-!
# Accounts of answers

Every answer that a run takes from its list settles a field, is refused, or ends the run because it
does not fit; none is passed over and none is used twice. The accounts of a single field follow from
its interview, and those of a run add up along its stages (`Reaches.accounts`). A run that is done
has settled all fields of the groups that it began.
-/

namespace InstallerSetup.Form

namespace Report

/-- The number of answers that ended a run: one if an answer was unfit or named no option. -/
def fatal (r : Report) : Nat :=
  match r.result with
  | .error (.terminal _) => 1
  | _ => 0

def settled (r : Report) : Nat :=
  match r.result with
  | .ok () => 1
  | .error _ => 0

/-- A run has settled a number of fields with the answers that are gone from its list. -/
structure Accounts (r : Report) (answers : List Answer) (settled : Nat) : Prop where
  consumed : ∃ consumed, answers = consumed ++ r.remaining ∧
    consumed.length = settled + r.rejections.length + r.fatal
  spent : r.result = .error .aborted → r.remaining = []

theorem accounts_done (s : State) (answers : List Answer) :
    (done s answers).Accounts answers 0 where
  consumed := ⟨[], rfl, rfl⟩
  spent impossible := nomatch impossible

variable {r : Report} {answers : List Answer} {settled : Nat}

/-- Moments before a run add the answers that are refused in them. -/
theorem Accounts.afterAll (accounts : r.Accounts answers settled) (moments : List Moment)
    {refused : List Answer}
    (count : refused.length = (moments.filterMap Moment.rejection?).length) :
    (r.afterAll moments).Accounts (refused ++ answers) settled := by
  obtain ⟨⟨consumed, split, total⟩, spent⟩ := accounts
  refine ⟨⟨refused ++ consumed, ?_, ?_⟩, spent⟩
  · rw [split, List.append_assoc]
    rfl
  · have further : (r.afterAll moments).rejections =
        moments.filterMap Moment.rejection? ++ r.rejections := List.filterMap_append
    have same : (r.afterAll moments).fatal = r.fatal := rfl
    rw [further, same, List.length_append, List.length_append, count, total]
    omega

/-- The accounts of what follows are added to those of a run that is done. -/
theorem Accounts.andThen (accounts : r.Accounts answers settled) (done : r.result = .ok ())
    {next : State → List Answer → Report} {more : Nat}
    (later : (next r.state r.remaining).Accounts r.remaining more) :
    (r.andThen next).Accounts answers (more + settled) := by
  obtain ⟨moments, remaining, t, result⟩ := r
  obtain rfl : result = .ok () := done
  obtain ⟨⟨consumed, split, count⟩, _⟩ := accounts
  obtain ⟨⟨further, split', count'⟩, spent⟩ := later
  refine ⟨⟨consumed ++ further, ?_, ?_⟩, spent⟩
  · rw [split, List.append_assoc]
    exact congrArg _ split'
  · change consumed.length = settled + (moments.filterMap Moment.rejection?).length + 0 at count
    change (consumed ++ further).length = more + settled +
      ((moments ++ (next t remaining).moments).filterMap Moment.rejection?).length +
        (next t remaining).fatal
    change further.length = more +
      ((next t remaining).moments.filterMap Moment.rejection?).length +
        (next t remaining).fatal at count'
    rw [List.filterMap_append, List.length_append, List.length_append, count, count']
    omega

end Report

/-! ## One field -/

/-- In an interview the answers are refused that are followed by the question again. -/
theorem rejections_of_rebuffs (info : Field.Info) (first : Question) (rebuffs : List Rebuff) :
    (Moment.asked info first :: rebuffs.flatMap (Rebuff.moments info)).filterMap
        Moment.rejection? =
      rebuffs.map fun rebuff => (info.title, rebuff.refusal.message) := by
  rw [List.filterMap_cons_none rfl]
  induction rebuffs with
  | nil => rfl
  | cons rebuff rebuffs ih =>
      rw [List.flatMap_cons, List.filterMap_append, ih]
      rfl

namespace Field

variable {field : Field} {catalog : Catalog} {s : State} {answers : List Answer} {report : Report}

theorem Ends.accounts {last : Question} {ending : Report}
    (ends : field.Ends catalog s last answers ending) :
    ending.Accounts answers ending.settled := by
  cases ends with
  | @stored answer rest value t _ _ =>
      exact ⟨⟨[answer], rfl, rfl⟩, fun impossible => nomatch impossible⟩
  | @unfit answer rest _ => exact ⟨⟨[answer], rfl, rfl⟩, fun impossible => nomatch impossible⟩
  | @noOption answer rest _ _ _ _ =>
      exact ⟨⟨[answer], rfl, rfl⟩, fun impossible => nomatch impossible⟩
  | unanswered => exact ⟨⟨[], rfl, rfl⟩, fun _ => rfl⟩

theorem Interview.accounts (interview : field.Interview catalog s answers report) :
    report.Accounts answers report.settled := by
  obtain ⟨rebuffs, last, later, ending, _, rfl, ends, rfl⟩ := interview
  refine ends.accounts.afterAll _ ?_
  rw [rejections_of_rebuffs, List.length_map, List.length_map]

end Field

/-! ## Along a run -/

variable {ε : Type} [Change ε] {catalog : Catalog}

theorem Stage.accounts_resume_settled {field : Field} {fields : List Field} {groups : Form}
    {s : State} {given rest : List Answer} {edit : ε}
    (settles : field.Settles catalog s given edit) {settled : Nat}
    (later : (resume catalog ⟨fields, groups, Change.apply edit s, rest⟩).Accounts rest settled) :
    (resume catalog ⟨field :: fields, groups, s, given ++ rest⟩).Accounts (given ++ rest)
      (settled + 1) := by
  have interview := field.interview_report catalog s (given ++ rest)
  obtain ⟨moments, asked⟩ := Field.ask_of_settles settles rest
  rw [resume_field]
  rw [asked] at interview ⊢
  exact interview.accounts.andThen rfl later

/-- Where a run stops no further field is settled. -/
theorem Stage.accounts_of_stops {stage : Stage} {report : Report}
    (stops : stage.Stops catalog report) :
    (stage.resume catalog).Accounts stage.answers 0 := by
  obtain ⟨fields, groups, s, answers⟩ := stage
  obtain ⟨_, ⟨rfl, rfl, _, _⟩ | ⟨field, fields, _, rfl, _, _, unsettled⟩⟩ := stops
  · exact Report.accounts_done s answers
  · rcases field.settles_or_fails catalog s answers with
      ⟨given, rest, change, split, settles⟩ | ⟨failure, fails, _⟩
    · exact absurd settles (unsettled given rest change split)
    · have interview := field.interview_report catalog s answers
      have report_eq : resume catalog ⟨field :: fields, groups, s, answers⟩ =
          .ofOutcome s (field.ask catalog s answers) := by
        rw [resume_field]
        unfold Report.ofOutcome
        rw [fails]
        rfl
      have failed := (resume_failed fails fields groups).2
      rw [report_eq] at failed ⊢
      have unsettled : (Report.ofOutcome s (field.ask catalog s answers)).settled = 0 := by
        unfold Report.settled
        rw [failed]
      exact unsettled ▸ interview.accounts

/-- The fields settled on the way to a stage are added to the accounts of the rest of the run. -/
theorem Reaches.accounts {first stage : Stage} {trace : List (Settlement ε)}
    (reached : Reaches catalog first trace stage) {settled : Nat}
    (later : (stage.resume catalog).Accounts stage.answers settled) :
    (first.resume catalog).Accounts first.answers (settled + trace.length) := by
  induction reached generalizing settled with
  | first => exact later
  | @hidden _ group _ _ _ _ invisible ih =>
      refine ih ?_
      rw [Stage.resume_hidden invisible]
      exact later.afterAll [.hidden group.title] List.length_nil
  | @shown _ group _ _ _ _ visible ih =>
      refine ih ?_
      rw [Stage.resume_shown visible]
      exact later.afterAll [.began group.title] List.length_nil
  | settled _ settles ih =>
      have whole := ih (Stage.accounts_resume_settled settles later)
      rw [List.length_append, List.length_singleton, Nat.add_comm _ 1, ← Nat.add_assoc]
      exact whole

/-- What a passage settles are the fields of its groups, one after the other. -/
theorem Passes.fields_steps {form : Form} {s t : State} {visits : List (Visit ε)}
    {moments : List Moment} (passes : Passes catalog form s visits moments t) :
    (visits.flatMap Visit.steps).map Settlement.field =
      visits.flatMap fun visit => visit.group.fields := by
  rw [List.map_flatMap]
  exact List.flatMap_congr fun visit member => passes.fields_of_mem visit member

/--
The answers that are gone from the list of a run settled a field, were refused, or ended it. The run
is done, aborted for want of answers, or ended by one of them; if it is done, it has settled all
fields of the groups that it began.
-/
theorem run_accounts (catalog : Catalog) (form : Form) (s : State) (answers : List Answer) :
    let report := run catalog form s answers
    (∃ (trace : List (Settlement (State → State))) (last : Stage),
        Reaches catalog (.start form s answers) trace last ∧ last.Stops catalog report) ∧
      ∀ (trace : List (Settlement (State → State))) (last : Stage),
        Reaches catalog (.start form s answers) trace last → last.Stops catalog report →
          (∃ consumed, answers = consumed ++ report.remaining ∧
            consumed.length = trace.length + report.rejections.length + report.fatal) ∧
          (report.result = .ok () ∨ report.result = .error .aborted ∨
            ∃ reason, report.result = .error (.terminal reason)) ∧
          (report.result = .error .aborted → report.remaining = []) ∧
          (report.result = .ok () → ∃ visits,
            Passes catalog form s visits report.moments report.state ∧
              trace = visits.flatMap Visit.steps ∧
              report.groups = visits.map (fun visit => Text.trim visit.group.title) ∧
              trace.map Settlement.field = (visits.flatMap fun visit => visit.group.fields) ∧
              trace.length = (visits.flatMap fun visit => visit.group.fields).length) := by
  intro report
  refine ⟨run_stops catalog form s answers, fun trace last reached stops => ?_⟩
  have accounts : report.Accounts answers (0 + trace.length) :=
    reached.accounts (Stage.accounts_of_stops stops)
  rw [Nat.zero_add] at accounts
  refine ⟨accounts.consumed, ?_, accounts.spent, fun done => ?_⟩
  · obtain ⟨_, ⟨_, _, _, done⟩ | ⟨_, _, failure, _, fails, kind, _⟩⟩ := stops
    · exact .inl done
    · rcases kind with rfl | ⟨reason, rfl⟩
      · exact .inr (.inl fails)
      · exact .inr (.inr ⟨reason, fails⟩)
  · obtain rfl := stops.eq_of_done done
    obtain ⟨visits, steps_eq, _, passes⟩ := passes_of_reaches reached
    have fields : trace.map Settlement.field = visits.flatMap fun visit => visit.group.fields := by
      rw [← steps_eq]
      exact passes.fields_steps
    refine ⟨visits, passes, steps_eq.symm, ?_, fields, ?_⟩
    · rw [Report.groups_eq, Report.outline, passes.outlines_eq, List.map_map]
      rfl
    · rw [← fields, List.length_map]

/--
A name is refused, the next one is accepted, and an answer that fits no domain ends the run. One
answer is left.
-/
theorem run_accounts_of_unfit :
    let answers : List Answer := [.text "Demo", .text "demo", .confirm true, .accept]
    let report := run .empty installer (.start .initial .initial) answers
    report.remaining.length = 1 ∧ report.rejections.length = 1 ∧ report.fatal = 1 ∧
      ∃ (trace : List (Settlement (State → State))) (last : Stage),
        Reaches .empty (.start installer (.start .initial .initial) answers) trace last ∧
          last.Stops .empty report ∧ trace.length = 1 := by
  intro answers report
  have left : report.remaining.length = 1 := by decide +kernel
  have refused : report.rejections.length = 1 := by decide +kernel
  have ended : report.fatal = 1 := by decide +kernel
  obtain ⟨⟨trace, last, reached, stops⟩, accounts⟩ :=
    run_accounts .empty installer (.start .initial .initial) answers
  obtain ⟨⟨consumed, split, count⟩, _⟩ := accounts trace last reached stops
  have total : 4 = consumed.length + report.remaining.length := by
    rw [← List.length_append, ← split]
    rfl
  refine ⟨left, refused, ended, trace, last, reached, stops, ?_⟩
  change consumed.length = trace.length + report.rejections.length + report.fatal at count
  omega

end InstallerSetup.Form
