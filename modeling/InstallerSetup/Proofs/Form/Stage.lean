import InstallerSetup.Proofs.Form.Settle

/-!
# The stages of a run

A stage is a point of a run: what is still to be asked, the state so far, and the answers not yet
given. `Reaches` lists the stages that lie on a run, with the fields settled on the way. A run stops
at one of them (`run_stops`), and each of them is where the run with only the answers given up to
it stops (`Reaches.state_eq_run`), so what holds at all stages holds at every point of every run.
-/

namespace InstallerSetup.Form

def fields (form : Form) : List Field := form.flatMap Group.fields

structure Stage where
  /-- The fields of the group at hand that are still to be asked for. -/
  fields : List Field
  /-- The groups behind it. -/
  groups : Form
  state : State
  answers : List Answer

namespace Stage

def start (form : Form) (s : State) (answers : List Answer) : Stage := ⟨[], form, s, answers⟩

def pending (stage : Stage) : List Field := stage.fields ++ Form.fields stage.groups

end Stage

/-- A field that was settled, with the answers given to it and the change that came of it. -/
structure Settlement (ε : Type) where
  field : Field
  given : List Answer
  edit : ε

/-- The stages that are reached from a first one, and the fields that are settled on the way. -/
inductive Reaches {ε : Type} [Change ε] (catalog : Catalog) (first : Stage) :
    List (Settlement ε) → Stage → Prop where
  | first : Reaches catalog first [] first
  | hidden {trace : List (Settlement ε)} {group : Group} {groups : Form} {s : State}
      {answers : List Answer}
      (reached : Reaches catalog first trace ⟨[], group :: groups, s, answers⟩)
      (invisible : group.isVisible s = false) :
      Reaches catalog first trace ⟨[], groups, s, answers⟩
  | shown {trace : List (Settlement ε)} {group : Group} {groups : Form} {s : State}
      {answers : List Answer}
      (reached : Reaches catalog first trace ⟨[], group :: groups, s, answers⟩)
      (visible : group.isVisible s = true) :
      Reaches catalog first trace ⟨group.fields, groups, s, answers⟩
  | settled {trace : List (Settlement ε)} {field : Field} {fields : List Field} {groups : Form}
      {s : State} {given answers : List Answer} {edit : ε}
      (reached : Reaches catalog first trace ⟨field :: fields, groups, s, given ++ answers⟩)
      (settles : field.Settles catalog s given edit) :
      Reaches catalog first (trace ++ [⟨field, given, edit⟩])
        ⟨fields, groups, Change.apply edit s, answers⟩

namespace Reaches

section

variable {ε : Type} [Change ε] {catalog : Catalog} {first middle stage : Stage}
  {trace earlier later : List (Settlement ε)}

theorem trans (reached : Reaches catalog first earlier middle)
    (reached' : Reaches catalog middle later stage) :
    Reaches catalog first (earlier ++ later) stage := by
  induction reached' with
  | first => rw [List.append_nil]; exact reached
  | hidden _ invisible ih => exact ih.hidden invisible
  | shown _ visible ih => exact ih.shown visible
  | settled _ settles ih => rw [← List.append_assoc]; exact ih.settled settles

/-! ## What the way to a stage tells -/

/-- The state is the first one after the changes of the settled fields. -/
theorem state_eq (reached : Reaches catalog first trace stage) :
    stage.state = Change.applyAll first.state (trace.map Settlement.edit) := by
  induction reached with
  | first => rfl
  | hidden _ _ ih => exact ih
  | shown _ _ ih => exact ih
  | settled _ _ ih =>
      rw [List.map_append, Change.applyAll_append, ← ih]
      rfl

/-- The answers are those given to the settled fields and those still to be given. -/
theorem answers_eq (reached : Reaches catalog first trace stage) :
    first.answers = trace.flatMap Settlement.given ++ stage.answers := by
  induction reached with
  | first => rfl
  | hidden _ _ ih => exact ih
  | shown _ _ ih => exact ih
  | settled _ _ ih =>
      rw [ih, List.flatMap_append, List.append_assoc]
      simp

/-- The settled fields and those that may still be reached come in the order of the form. -/
theorem fields_sublist (reached : Reaches catalog first trace stage) :
    (trace.map Settlement.field ++ stage.pending).Sublist first.pending := by
  induction reached with
  | first => exact List.Sublist.refl _
  | @hidden trace group groups s answers _ _ ih =>
      refine List.Sublist.trans (List.Sublist.append_left ?_ _) ih
      exact List.sublist_append_right group.fields (Form.fields groups)
  | shown _ _ ih => exact ih
  | settled _ _ ih =>
      simpa only [List.map_append, List.map_cons, List.map_nil, List.append_assoc,
        List.singleton_append, Stage.pending, List.cons_append, List.nil_append] using ih

/-- A field is settled in the state that the fields before it have made. -/
theorem settles_at (reached : Reaches catalog first trace stage)
    {earlier later : List (Settlement ε)} {step : Settlement ε}
    (split : trace = earlier ++ step :: later) :
    step.field.Settles catalog (Change.applyAll first.state (earlier.map Settlement.edit))
      step.given step.edit := by
  induction reached generalizing later with
  | first => exact absurd split.symm (by simp)
  | hidden _ _ ih => exact ih split
  | shown _ _ ih => exact ih split
  | @settled trace field fields groups s given answers edit reached settles ih =>
      rcases List.eq_nil_or_concat later with rfl | ⟨front, last, rfl⟩
      · -- the field settled last, in the state of the stage before
        obtain ⟨rfl, same⟩ := List.append_inj' split rfl
        obtain rfl := List.head_eq_of_cons_eq same
        rw [← reached.state_eq]
        exact settles
      · rw [List.concat_eq_append, ← List.cons_append, ← List.append_assoc] at split
        exact ih (List.append_inj' split rfl).1

theorem settles_of_mem (reached : Reaches catalog first trace stage) {step : Settlement ε}
    (member : step ∈ trace) :
    ∃ before, step.field.Settles catalog before step.given step.edit := by
  obtain ⟨earlier, later, split⟩ := List.append_of_mem member
  exact ⟨_, reached.settles_at split⟩

/-- A field of a group that is never hidden has been settled, or is still to be asked for. -/
theorem settled_or_pending (reached : Reaches catalog first trace stage) {group : Group}
    (member : group ∈ first.groups)
    (visible : ∀ (earlier : List (Settlement ε)) (middle : Stage),
      Reaches catalog first earlier middle → group.isVisible middle.state = true)
    {field : Field} (listed : field ∈ group.fields) :
    (∃ step ∈ trace, step.field = field) ∨ field ∈ stage.fields ∨ group ∈ stage.groups := by
  induction reached with
  | first => exact .inr (.inr member)
  | @hidden trace other groups s answers reached invisible ih =>
      rcases ih with found | impossible | found
      · exact .inl found
      · cases impossible
      · rcases List.mem_cons.1 found with rfl | further
        · rw [visible _ _ reached] at invisible
          cases invisible
        · exact .inr (.inr further)
  | @shown trace other groups s answers _ _ ih =>
      rcases ih with found | impossible | found
      · exact .inl found
      · cases impossible
      · rcases List.mem_cons.1 found with rfl | further
        · exact .inr (.inl listed)
        · exact .inr (.inr further)
  | @settled trace other fields groups s given answers edit _ _ ih =>
      rcases ih with ⟨step, before, same⟩ | found | found
      · exact .inl ⟨step, List.mem_append_left _ before, same⟩
      · rcases List.mem_cons.1 found with rfl | further
        · exact .inl ⟨_, List.mem_append_right _ List.mem_cons_self, rfl⟩
        · exact .inr (.inl further)
      · exact .inr (.inr found)

/-- Once the end is reached, the fields of a group that is never hidden are settled. -/
theorem settled_of_final {s : State} {answers : List Answer}
    (reached : Reaches catalog first trace ⟨[], [], s, answers⟩) {group : Group}
    (member : group ∈ first.groups)
    (visible : ∀ (earlier : List (Settlement ε)) (middle : Stage),
      Reaches catalog first earlier middle → group.isVisible middle.state = true)
    {field : Field} (listed : field ∈ group.fields) : ∃ step ∈ trace, step.field = field := by
  rcases reached.settled_or_pending member visible listed with found | impossible | impossible
  · exact found
  · cases impossible
  · cases impossible

/-- A stage of a form in two parts lies in the first part or follows the whole of it. -/
theorem append {front back : Form} {s : State} {answers : List Answer}
    (reached : Reaches catalog (.start (front ++ back) s answers) trace stage) :
    (∃ groups, stage.groups = groups ++ back ∧
        Reaches catalog (.start front s answers) trace { stage with groups := groups }) ∨
      ∃ earlier later t rest, trace = earlier ++ later ∧
        Reaches catalog (.start front s answers) earlier ⟨[], [], t, rest⟩ ∧
        Reaches catalog (.start back t rest) later stage := by
  induction reached with
  | first => exact .inl ⟨front, rfl, .first⟩
  | @hidden trace group groups t rest _ invisible ih =>
      rcases ih with ⟨ahead, same, inFront⟩ | ⟨earlier, later, u, left, split, whole, inBack⟩
      · cases ahead with
        | nil =>
            -- the first part ends here, so this group is the first of the second part
            obtain rfl : group :: groups = back := same
            exact .inr ⟨trace, [], t, rest, (List.append_nil _).symm, inFront,
              Reaches.first.hidden invisible⟩
        | cons head tail =>
            obtain ⟨rfl, rfl⟩ := List.cons.inj same
            exact .inl ⟨tail, rfl, inFront.hidden invisible⟩
      · exact .inr ⟨earlier, later, u, left, split, whole, inBack.hidden invisible⟩
  | @shown trace group groups t rest _ visible ih =>
      rcases ih with ⟨ahead, same, inFront⟩ | ⟨earlier, later, u, left, split, whole, inBack⟩
      · cases ahead with
        | nil =>
            obtain rfl : group :: groups = back := same
            exact .inr ⟨trace, [], t, rest, (List.append_nil _).symm, inFront,
              Reaches.first.shown visible⟩
        | cons head tail =>
            obtain ⟨rfl, rfl⟩ := List.cons.inj same
            exact .inl ⟨tail, rfl, inFront.shown visible⟩
      · exact .inr ⟨earlier, later, u, left, split, whole, inBack.shown visible⟩
  | settled _ settles ih =>
      rcases ih with ⟨ahead, same, inFront⟩ | ⟨earlier, later, u, left, rfl, whole, inBack⟩
      · exact .inl ⟨ahead, same, inFront.settled settles⟩
      · exact .inr ⟨earlier, _, u, left, List.append_assoc _ _ _, whole, inBack.settled settles⟩

end

/-! ## The way to a stage as a list of edits -/

variable {catalog : Catalog} {first stage : Stage} {trace : List (Settlement Edit)}

/-- The parts of the state that are at no place never change. -/
theorem sameFrame (reached : Reaches catalog first trace stage) :
    SameFrame stage.state first.state := by
  rw [reached.state_eq]
  exact SameFrame.applyAll _ _

/-- A place that no settled field edits keeps its content. -/
theorem content_of_notMem (reached : Reaches catalog first trace stage) {place : Place}
    (elsewhere : ∀ step ∈ trace, step.edit.place ≠ place) :
    place.content stage.state = place.content first.state := by
  rw [reached.state_eq]
  refine Edit.content_applyAll_of_notMem (fun member => ?_) _
  obtain ⟨edit, listed, same⟩ := List.mem_map.1 member
  obtain ⟨step, found, rfl⟩ := List.mem_map.1 listed
  exact elsewhere step found same

/--
A condition on the state that only edits of some places can break holds at all stages, if no group
that is shown under it has a field bound to one of those places.
-/
theorem guarded {form : Form} {guard : State → Prop} {allowed : Place → Prop}
    (keeps : ∀ s (edit : Edit), allowed edit.place → guard s → guard (edit.apply s))
    (confined : ∀ group ∈ form, ∀ s, guard s → group.isVisible s = true → ∀ field ∈ group.fields,
      ∃ place, field.IsBoundTo place ∧ allowed place)
    {s : State} {answers : List Answer}
    (reached : Reaches catalog (.start form s answers) trace stage) (holds : guard s) :
    guard stage.state ∧ ∀ step ∈ trace, allowed step.edit.place := by
  suffices invariant : (guard stage.state ∧ ∀ step ∈ trace, allowed step.edit.place) ∧
      (∀ field ∈ stage.fields, ∃ place, field.IsBoundTo place ∧ allowed place) ∧
      ∀ group ∈ stage.groups, group ∈ form from invariant.1
  induction reached with
  | first =>
      refine ⟨⟨holds, ?_⟩, ?_, fun _ member => member⟩
      · exact fun step impossible => nomatch impossible
      · exact fun field impossible => nomatch impossible
  | hidden _ _ ih =>
      refine ⟨ih.1, ?_, fun group member => ih.2.2 group (List.mem_cons_of_mem _ member)⟩
      exact fun field impossible => nomatch impossible
  | @shown trace group groups t answers _ visible ih =>
      refine ⟨ih.1, ?_, fun other member => ih.2.2 other (List.mem_cons_of_mem _ member)⟩
      exact confined group (ih.2.2 group List.mem_cons_self) t ih.1.1 visible
  | @settled trace field fields groups t given answers edit _ settles ih =>
      obtain ⟨⟨guarded, traced⟩, bound, members⟩ := ih
      obtain ⟨place, bound_to, permitted⟩ := bound field List.mem_cons_self
      have same := Field.place_of_settles bound_to settles
      rw [← same] at permitted
      refine ⟨⟨keeps t edit permitted guarded, ?_⟩,
        fun other member => bound other (List.mem_cons_of_mem _ member), members⟩
      intro step member
      rcases List.mem_append.1 member with before | last
      · exact traced step before
      · obtain rfl := List.mem_singleton.1 last
        exact permitted

/-- If all fields of a form are bound to places, the way to a stage is one of edits. -/
theorem exists_edits {form : Form} (bound : ∀ field ∈ fields form, ∃ place, field.IsBoundTo place)
    {s : State} {answers : List Answer} {trace : List (Settlement (State → State))}
    (reached : Reaches catalog (.start form s answers) trace stage) :
    ∃ edits : List (Settlement Edit), Reaches catalog (.start form s answers) edits stage := by
  induction reached with
  | first => exact ⟨[], .first⟩
  | hidden _ invisible ih =>
      obtain ⟨edits, reached⟩ := ih
      exact ⟨edits, reached.hidden invisible⟩
  | shown _ visible ih =>
      obtain ⟨edits, reached⟩ := ih
      exact ⟨edits, reached.shown visible⟩
  | @settled trace field _ _ _ _ _ _ _ settles ih =>
      obtain ⟨edits, reached⟩ := ih
      have pending : field ∈ fields form :=
        reached.fields_sublist.subset (List.mem_append_right _ List.mem_cons_self)
      obtain ⟨place, bound_to⟩ := bound field pending
      obtain ⟨edit, _, rfl⟩ := Field.exists_edit bound_to settles
      exact ⟨edits ++ [⟨_, _, edit⟩], reached.settled settles⟩

end Reaches

/-! ## Runs and their stages -/

def Report.afterAll (r : Report) (moments : List Moment) : Report :=
  { r with moments := moments ++ r.moments }

theorem Report.afterAll_afterAll (r : Report) (first second : List Moment) :
    (r.afterAll second).afterAll first = r.afterAll (first ++ second) := by
  unfold afterAll
  simp only [List.append_assoc]

theorem Report.andThen_afterAll (r : Report) (moments : List Moment)
    (next : State → List Answer → Report) :
    (r.afterAll moments).andThen next = (r.andThen next).afterAll moments := by
  obtain ⟨own, remaining, s, result⟩ := r
  cases result with
  | error failure => rfl
  | ok _ =>
      unfold afterAll andThen
      simp only [List.append_assoc]

theorem Report.andThen_assoc (r : Report) (next last : State → List Answer → Report) :
    (r.andThen next).andThen last =
      r.andThen fun s answers => (next s answers).andThen last := by
  obtain ⟨own, remaining, s, result⟩ := r
  cases result with
  | error failure => rfl
  | ok _ =>
      change ((next s remaining).afterAll own).andThen last =
        ((next s remaining).andThen last).afterAll own
      exact andThen_afterAll _ _ _

/-- A run through a form in two parts goes through the first one and then through the second one. -/
theorem run_append (catalog : Catalog) (front back : Form) (s : State) (answers : List Answer) :
    run catalog (front ++ back) s answers =
      (run catalog front s answers).andThen (run catalog back) := by
  induction front generalizing s answers with
  | nil => rfl
  | cons group front ih =>
      rw [List.cons_append, run, run]
      cases group.isVisible s with
      | true =>
          simp only [if_true]
          rw [Report.andThen_assoc]
          exact congrArg _ (funext fun t => funext fun rest => ih t rest)
      | false =>
          change (run catalog (front ++ back) s answers).afterAll [.hidden group.title] =
            ((run catalog front s answers).afterAll [.hidden group.title]).andThen _
          rw [Report.andThen_afterAll, ih]

namespace Stage

def resume (catalog : Catalog) (stage : Stage) : Report :=
  (runFields catalog stage.fields stage.state stage.answers).andThen (run catalog stage.groups)

theorem resume_start (catalog : Catalog) (form : Form) (s : State) (answers : List Answer) :
    (start form s answers).resume catalog = run catalog form s answers := rfl

variable {catalog : Catalog} {group : Group} {groups : Form} {s : State} {answers : List Answer}
  {field : Field} {fields : List Field}

theorem resume_hidden (invisible : group.isVisible s = false) :
    resume catalog ⟨[], group :: groups, s, answers⟩ =
      (resume catalog ⟨[], groups, s, answers⟩).afterAll [.hidden group.title] := by
  change run catalog (group :: groups) s answers =
    (run catalog groups s answers).afterAll [.hidden group.title]
  rw [run, invisible]
  rfl

theorem resume_shown (visible : group.isVisible s = true) :
    resume catalog ⟨[], group :: groups, s, answers⟩ =
      (resume catalog ⟨group.fields, groups, s, answers⟩).afterAll [.began group.title] := by
  change run catalog (group :: groups) s answers = _
  rw [run, visible]
  exact Report.andThen_afterAll (runFields catalog group.fields s answers) [.began group.title] _

theorem resume_field :
    resume catalog ⟨field :: fields, groups, s, answers⟩ =
      (Report.ofOutcome s (field.ask catalog s answers)).andThen fun t rest =>
        resume catalog ⟨fields, groups, t, rest⟩ :=
  Report.andThen_assoc _ _ _

theorem resume_settled {ε : Type} [Change ε] {given : List Answer} {edit : ε}
    (settles : field.Settles catalog s given edit) (fields : List Field) (groups : Form)
    (rest : List Answer) :
    ∃ moments, resume catalog ⟨field :: fields, groups, s, given ++ rest⟩ =
      (resume catalog ⟨fields, groups, Change.apply edit s, rest⟩).afterAll moments := by
  obtain ⟨moments, asked⟩ := Field.ask_of_settles settles rest
  refine ⟨moments, ?_⟩
  rw [resume_field, asked]
  rfl

theorem resume_failed {failure : Failure}
    (fails : (field.ask catalog s answers).result = .error failure) (fields : List Field)
    (groups : Form) :
    (resume catalog ⟨field :: fields, groups, s, answers⟩).state = s ∧
      (resume catalog ⟨field :: fields, groups, s, answers⟩).result = .error failure := by
  rw [resume_field]
  unfold Report.ofOutcome
  rw [fails]
  exact ⟨rfl, rfl⟩

/--
A run stops at a stage: at the end of the form, or where the answers that are left do not settle the
field that is asked for.
-/
def Stops (catalog : Catalog) (stage : Stage) (report : Report) : Prop :=
  report.state = stage.state ∧
    ((stage.fields = [] ∧ stage.groups = [] ∧ report.remaining = stage.answers ∧
        report.result = .ok ()) ∨
      ∃ field fields failure, stage.fields = field :: fields ∧
        report.result = .error failure ∧ failure.OfForm ∧
        ∀ given rest, ∀ change : State → State, stage.answers = given ++ rest →
          ¬ field.Settles catalog stage.state given change)

/-- A run that is done stops at the end of its form. -/
theorem Stops.eq_of_done {stage : Stage} {report : Report} (stops : stage.Stops catalog report)
    (done : report.result = .ok ()) : stage = ⟨[], [], report.state, report.remaining⟩ := by
  obtain ⟨fields, groups, t, rest⟩ := stage
  obtain ⟨same, ⟨rfl, rfl, left, _⟩ | ⟨_, _, failure, _, fails, _, _⟩⟩ := stops
  · rw [same, left]
  · rw [done] at fails
    cases fails

/-- If a run stops wherever a group is to be reached, it stops wherever a field is asked for. -/
theorem resume_stops_of_groups
    (ends : ∀ s answers, ∃ (trace : List (Settlement (State → State))) (last : Stage),
      Reaches catalog ⟨[], groups, s, answers⟩ trace last ∧
        last.Stops catalog (resume catalog ⟨[], groups, s, answers⟩))
    (fields : List Field) (s : State) (answers : List Answer) :
    ∃ (trace : List (Settlement (State → State))) (last : Stage),
      Reaches catalog ⟨fields, groups, s, answers⟩ trace last ∧
      last.Stops catalog (resume catalog ⟨fields, groups, s, answers⟩) := by
  induction fields generalizing s answers with
  | nil => exact ends s answers
  | cons field fields ih =>
      rcases field.settles_or_fails catalog s answers with
        ⟨given, rest, change, rfl, settles⟩ | ⟨failure, fails, kind⟩
      · obtain ⟨trace, last, reached, stops⟩ := ih (change s) rest
        obtain ⟨moments, resumed⟩ := resume_settled settles fields groups rest
        refine ⟨_, last, (Reaches.first.settled settles).trans reached, ?_⟩
        rw [resumed]
        exact stops
      · obtain ⟨same, result⟩ := resume_failed fails fields groups
        refine ⟨[], _, .first, same, .inr ⟨field, fields, failure, rfl, result, kind, ?_⟩⟩
        -- if some of these answers settled the field, asking for it would not have failed
        rintro given rest change rfl settles
        obtain ⟨moments, asked⟩ := Field.ask_of_settles settles rest
        rw [asked] at fails
        cases fails

/-- From every stage a stage is reached at which the run stops. -/
theorem resume_stops (catalog : Catalog) (stage : Stage) :
    ∃ (trace : List (Settlement (State → State))) (last : Stage),
      Reaches catalog stage trace last ∧ last.Stops catalog (stage.resume catalog) := by
  obtain ⟨fields, groups, s, answers⟩ := stage
  induction groups generalizing fields s answers with
  | nil =>
      refine resume_stops_of_groups (fun s answers => ?_) fields s answers
      exact ⟨[], _, .first, rfl, .inl ⟨rfl, rfl, rfl, rfl⟩⟩
  | cons group groups ih =>
      refine resume_stops_of_groups (fun s answers => ?_) fields s answers
      cases visible : group.isVisible s with
      | false =>
          obtain ⟨trace, last, reached, stops⟩ := ih [] s answers
          refine ⟨[] ++ trace, last, (Reaches.first.hidden visible).trans reached, ?_⟩
          rw [resume_hidden visible]
          exact stops
      | true =>
          obtain ⟨trace, last, reached, stops⟩ := ih group.fields s answers
          refine ⟨[] ++ trace, last, (Reaches.first.shown visible).trans reached, ?_⟩
          rw [resume_shown visible]
          exact stops

/-- Without answers nothing changes. -/
theorem state_resume_nil (fields : List Field) (groups : Form) (s : State) :
    (resume catalog ⟨fields, groups, s, []⟩).state = s := by
  obtain ⟨trace, last, reached, stops, _⟩ := resume_stops catalog ⟨fields, groups, s, []⟩
  cases trace with
  | nil => exact stops.trans reached.state_eq
  | cons step trace =>
      obtain ⟨before, settles⟩ := reached.settles_of_mem List.mem_cons_self
      have spent := reached.answers_eq
      rw [List.flatMap_cons, List.append_assoc] at spent
      exact absurd (List.append_eq_nil_iff.1 spent.symm).1 settles.given_ne_nil

end Stage

namespace Reaches

variable {ε : Type} [Change ε] {catalog : Catalog} {first stage : Stage}
  {trace : List (Settlement ε)}

/-- The run from a stage is what is left of the run from an earlier one. -/
theorem resume_eq (reached : Reaches catalog first trace stage) :
    ∃ moments, first.resume catalog = (stage.resume catalog).afterAll moments := by
  induction reached with
  | first => exact ⟨[], rfl⟩
  | hidden _ invisible ih =>
      obtain ⟨moments, same⟩ := ih
      rw [Stage.resume_hidden invisible, Report.afterAll_afterAll] at same
      exact ⟨_, same⟩
  | shown _ visible ih =>
      obtain ⟨moments, same⟩ := ih
      rw [Stage.resume_shown visible, Report.afterAll_afterAll] at same
      exact ⟨_, same⟩
  | settled _ settles ih =>
      obtain ⟨moments, same⟩ := ih
      obtain ⟨more, resumed⟩ := Stage.resume_settled settles _ _ _
      rw [resumed, Report.afterAll_afterAll] at same
      exact ⟨_, same⟩

/-- The answers given up to a stage lead there, whatever is left behind them. -/
theorem reanswer (reached : Reaches catalog first trace stage) (rest : List Answer) :
    Reaches catalog { first with answers := trace.flatMap Settlement.given ++ rest } trace
      { stage with answers := rest } := by
  induction reached generalizing rest with
  | first => exact .first
  | hidden _ invisible ih => exact (ih rest).hidden invisible
  | shown _ visible ih => exact (ih rest).shown visible
  | @settled trace field fields groups s given answers edit _ settles ih =>
      have step := (ih (given ++ rest)).settled settles
      simpa only [List.flatMap_append, List.flatMap_cons, List.flatMap_nil, List.append_nil,
        List.append_assoc] using step

/-- A stage is where the run stops that has only the answers given up to it. -/
theorem state_eq_run {form : Form} {s : State} {answers : List Answer}
    (reached : Reaches catalog (.start form s answers) trace stage) :
    (run catalog form s (trace.flatMap Settlement.given)).state = stage.state := by
  have shortened := reached.reanswer []
  rw [List.append_nil] at shortened
  obtain ⟨moments, same⟩ := shortened.resume_eq
  have state_same := congrArg Report.state same
  rw [← Stage.resume_start]
  refine state_same.trans ?_
  exact Stage.state_resume_nil stage.fields stage.groups stage.state

end Reaches

/-- Every run stops at one of its stages. -/
theorem run_stops (catalog : Catalog) (form : Form) (s : State) (answers : List Answer) :
    ∃ (trace : List (Settlement (State → State))) (last : Stage),
      Reaches catalog (.start form s answers) trace last ∧
        last.Stops catalog (run catalog form s answers) := by
  rw [← Stage.resume_start]
  exact Stage.resume_stops catalog (.start form s answers)

/-- A run that is done has reached the end of the form. -/
theorem reaches_end {catalog : Catalog} {form : Form} {s : State} {answers : List Answer}
    (done : (run catalog form s answers).result = .ok ()) :
    ∃ trace : List (Settlement (State → State)), Reaches catalog (.start form s answers) trace
      ⟨[], [], (run catalog form s answers).state, (run catalog form s answers).remaining⟩ := by
  obtain ⟨trace, last, reached, stops⟩ := run_stops catalog form s answers
  obtain rfl := stops.eq_of_done done
  exact ⟨trace, reached⟩

/-- The failure of a run is one of those that forms have. -/
theorem failure_of_run {catalog : Catalog} {form : Form} {s : State} {answers : List Answer}
    {failure : Failure} (fails : (run catalog form s answers).result = .error failure) :
    failure.OfForm := by
  obtain ⟨_, _, _, _, ⟨_, _, _, done⟩ | ⟨_, _, failure', _, fails', kind, _⟩⟩ :=
    run_stops catalog form s answers
  · rw [done] at fails
    cases fails
  · rw [fails'] at fails
    cases fails
    exact kind

end InstallerSetup.Form
