import InstallerSetup.Proofs.Form.Passage

/-!
# Runs that accept what they show

A field rests in a state if accepting what it shows changes nothing (`Field.Rests`), and a rule may
object to the text that a field shows (`Field.objection?`). A run that accepts everything it shows
passes over fields at rest and is stopped by the first objection, which is then the first answer
that the run refuses (`run_accepting`).
-/

namespace InstallerSetup.Form

/-! ## Options that are current -/

theorem getElem?_startIndex {choices : List Choice}
    (offered : ∃ choice ∈ choices, choice.current = true) :
    ∃ choice ∈ choices, choices[startIndex choices]? = some choice ∧ choice.current = true := by
  obtain ⟨index, found⟩ : ∃ index, choices.findIdx? Choice.current = some index := by
    rw [← Option.isSome_iff_exists, List.findIdx?_isSome]
    exact List.any_eq_true.2 offered
  obtain ⟨within, current, _⟩ := List.findIdx?_eq_some_iff_getElem.1 found
  refine ⟨choices[index], List.getElem_mem within, ?_, current⟩
  unfold startIndex
  rw [found]
  exact List.getElem?_eq_getElem within

/-! ## Fields -/

def reason? : Except Refusal Unit → Option String
  | .ok () => none
  | .error refusal => some refusal.message

theorem reason?_eq_none_iff {verdict : Except Refusal Unit} :
    reason? verdict = none ↔ verdict = .ok () := by
  cases verdict <;> simp [reason?]

namespace Field

/-- What the rule of a field says about the text that it shows. -/
def verdict (field : Field) (s : State) : Except Refusal Unit :=
  match field.kind with
  | .input slot rule _ | .text slot rule => rule (slot.get s)
  | _ => .ok ()

def objection? (field : Field) (s : State) : Option (String × String) :=
  (reason? (field.verdict s)).map fun message => (field.info.title, message)

theorem objection?_eq_none_iff {field : Field} {s : State} :
    field.objection? s = none ↔ field.verdict s = .ok () := by
  unfold objection?
  rw [Option.map_eq_none_iff, reason?_eq_none_iff]

theorem objection?_eq_some_iff {field : Field} {s : State} {objection : String × String} :
    field.objection? s = some objection ↔
      ∃ refusal, field.verdict s = .error refusal ∧
        objection = (field.info.title, refusal.message) := by
  unfold objection?
  cases field.verdict s <;> simp [reason?, eq_comm]

/-- Of the options that a field shows, some are current, and taking one of these changes nothing. -/
def ShowsState (field : Field) (catalog : Catalog) (s : State) : Prop :=
  match field.kind with
  | .select choices =>
      (∃ choice ∈ choices s catalog, choice.current = true) ∧
        ∀ choice ∈ choices s catalog, choice.current = true → choice.setting.store s = s
  | .multiSelect .. => False
  | _ => True

/-- Accepting what a field shows settles it and changes nothing. -/
def Rests (field : Field) (catalog : Catalog) (s : State) : Prop :=
  ∃ change : State → State, field.Settles catalog s [.accept] change ∧ change s = s

variable {field : Field} {catalog : Catalog} {s : State}

theorem rests_of_verdict (accepts : field.verdict s = .ok ())
    (shows : field.ShowsState catalog s) : field.Rests catalog s := by
  obtain ⟨info, kind⟩ := field
  cases kind with
  | input slot rule _ | text slot rule =>
      have judged : judgeBy rule (slot.get s) = .accepted (slot.get s) := by
        unfold judgeBy
        rw [show rule (slot.get s) = .ok () from accepts]
      exact ⟨_, ⟨_, .accepted rfl judged, rfl⟩, slot.set_get s⟩
  | confirm slot yes no =>
      exact ⟨_, ⟨_, .accepted rfl rfl, rfl⟩, slot.set_get s⟩
  | select choices =>
      obtain ⟨offered, rests⟩ := shows
      obtain ⟨choice, member, found, current⟩ := getElem?_startIndex offered
      have judged : judgeChoice (choices s catalog) (startIndex (choices s catalog)) =
          .accepted choice.setting := by
        unfold judgeChoice
        rw [found]
      exact ⟨_, ⟨_, .accepted rfl judged, rfl⟩, rests choice member current⟩
  | multiSelect items slot rule => exact shows.elim

/-- Options made from some values show the state if one of them is what it has. -/
theorem showsState_of_map {α : Type} {choices : State → Catalog → List Choice}
    (kind : field.kind = .select choices) {values : List α} {label : α → String}
    {current : α → Bool} {setting : α → Setting}
    (options : choices s catalog =
      values.map fun value => ⟨label value, current value, setting value⟩)
    (rests : ∀ value, current value = true → (setting value).store s = s)
    {value : α} (listed : value ∈ values) (held : current value = true) :
    field.ShowsState catalog s := by
  unfold ShowsState
  rw [kind]
  simp only [options]
  constructor
  · exact ⟨_, List.mem_map.2 ⟨value, listed, rfl⟩, held⟩
  · intro choice member
    obtain ⟨other, _, rfl⟩ := List.mem_map.1 member
    exact rests other

/-- Nothing is refused while a field is settled with one answer. -/
theorem Settles.quiet {ε : Type} [Change ε] {answer : Answer} {edit : ε}
    (settles : field.Settles catalog s [answer] edit) :
    (Settlement.moments ⟨field, [answer], edit⟩ catalog s).filterMap Moment.rejection? = [] := by
  obtain ⟨first, repeats, moments_eq, count⟩ := Field.moments_of_settles settles
  obtain rfl : repeats = [] := List.length_eq_zero_iff.1 (Nat.succ.inj count).symm
  rw [moments_eq]
  rfl

/-- Asking for a field at rest takes one answer and goes on in the same state. -/
theorem Rests.moments (rests : field.Rests catalog s) (rest : List Answer) :
    ∃ moments, field.ask catalog s (.accept :: rest) = ⟨moments, rest, .ok s⟩ ∧
      moments.filterMap Moment.rejection? = [] := by
  obtain ⟨change, settles, unchanged⟩ := rests
  have asked := Field.ask_append_of_settles settles rest
  rw [show Change.apply change s = s from unchanged] at asked
  exact ⟨_, asked, settles.quiet⟩

/-- If a rule objects to what its field shows, accepting that is refused. -/
theorem rejections_of_objection {objection : String × String}
    (objects : field.objection? s = some objection) (rest : List Answer) :
    ((field.ask catalog s (.accept :: rest)).moments.filterMap Moment.rejection?).head? =
      some objection := by
  obtain ⟨refusal, refuses, rfl⟩ := objection?_eq_some_iff.1 objects
  obtain ⟨info, kind⟩ := field
  cases kind with
  | input slot rule _ | text slot rule =>
      simp only [verdict] at refuses
      simp only [ask, Form.ask, Answer.text?, judgeBy, refuses]
      rfl
  | _ => cases refuses

end Field

/-! ## Runs -/

/-- The fields that are shown as long as the state stays as it is. -/
def shownFields (form : Form) (s : State) : List Field :=
  fields (form.filter fun group => group.isVisible s)

def objections (fields : List Field) (s : State) : List (String × String) :=
  fields.filterMap fun field => field.objection? s

section

variable {field : Field} {fields : List Field} {group : Group} {form : Form} {s : State}

theorem objections_cons_none (accepts : field.objection? s = none) :
    objections (field :: fields) s = objections fields s :=
  List.filterMap_cons_none accepts

theorem objections_cons_some {reason : String × String}
    (objects : field.objection? s = some reason) :
    objections (field :: fields) s = reason :: objections fields s :=
  List.filterMap_cons_some objects

theorem shownFields_hidden (invisible : group.isVisible s = false) :
    shownFields (group :: form) s = shownFields form s := by
  unfold shownFields
  rw [List.filter_cons, if_neg (by simp [invisible])]

theorem shownFields_shown (visible : group.isVisible s = true) :
    shownFields (group :: form) s = group.fields ++ shownFields form s := by
  unfold shownFields
  rw [List.filter_cons, if_pos visible]
  exact List.flatMap_cons

end

/-- How a run goes: it gets to a stage without a refusal, or it begins with the first objection. -/
def GoesBy (catalog : Catalog) (stage : Stage) (report : Report) : List (String × String) → Prop
  | [] => ∃ moments, report = (stage.resume catalog).afterAll moments ∧
      moments.filterMap Moment.rejection? = []
  | first :: _ => report.rejections.head? = some first

theorem GoesBy.afterAll {catalog : Catalog} {stage : Stage} {report : Report}
    {objections : List (String × String)} (goes : GoesBy catalog stage report objections)
    {moments : List Moment} (quiet : moments.filterMap Moment.rejection? = []) :
    GoesBy catalog stage (report.afterAll moments) objections := by
  cases objections with
  | nil =>
      obtain ⟨later, rfl, quiet'⟩ := goes
      refine ⟨moments ++ later, ?_, by rw [List.filterMap_append, quiet, quiet']; rfl⟩
      unfold Report.afterAll
      simp only [List.append_assoc]
  | cons first others =>
      unfold GoesBy Report.rejections Report.afterAll at *
      rw [List.filterMap_append, quiet]
      exact goes

theorem Report.rejections_ofOutcome (s : State) (o : Outcome State) :
    (ofOutcome s o).rejections = o.moments.filterMap Moment.rejection? := by
  obtain ⟨moments, remaining, result⟩ := o
  cases result <;> rfl

/-- What follows a report adds refusals behind its own. -/
theorem Report.rejections_andThen (r : Report) (next : State → List Answer → Report) :
    ∃ more, (r.andThen next).rejections = r.rejections ++ more := by
  obtain ⟨moments, remaining, s, result⟩ := r
  cases result with
  | error failure => exact ⟨[], (List.append_nil _).symm⟩
  | ok _ => exact ⟨(next s remaining).rejections, List.filterMap_append⟩

section

variable {catalog : Catalog} {s : State} {rest : List Answer}

theorem goesBy_fields {fields : List Field}
    (steady : ∀ field ∈ fields, field.objection? s = none → field.Rests catalog s)
    {stage : Stage} {groups : Form} {later : List (String × String)}
    (onward : GoesBy catalog stage (Stage.resume catalog ⟨[], groups, s, rest⟩) later) :
    GoesBy catalog stage
      (Stage.resume catalog ⟨fields, groups, s, fields.map (fun _ => .accept) ++ rest⟩)
      (objections fields s ++ later) := by
  induction fields with
  | nil => exact onward
  | cons field fields ih =>
      obtain ⟨first, others⟩ := List.forall_mem_cons.1 steady
      rw [List.map_cons, List.cons_append, Stage.resume_field]
      cases objection : field.objection? s with
      | none =>
          obtain ⟨moments, asked, quiet⟩ :=
            (first objection).moments (fields.map (fun _ => .accept) ++ rest)
          rw [objections_cons_none objection, asked]
          exact (ih others).afterAll quiet
      | some reason =>
          rw [objections_cons_some objection, List.cons_append]
          obtain ⟨more, rejections⟩ := Report.rejections_andThen
            (.ofOutcome s (field.ask catalog s
              (.accept :: (fields.map (fun _ => .accept) ++ rest))))
            fun t rest => Stage.resume catalog ⟨fields, groups, t, rest⟩
          unfold GoesBy
          rw [rejections, Report.rejections_ofOutcome, List.head?_append,
            Field.rejections_of_objection objection]
          rfl

/--
Accepting all that the first part of a form shows leads behind that part, or to a first refusal
that is the first objection to what is shown in it.
-/
theorem run_accepting {front : Form} (back : Form) (rest : List Answer)
    (steady : ∀ field ∈ shownFields front s, field.objection? s = none → field.Rests catalog s) :
    GoesBy catalog ⟨[], back, s, rest⟩
      (run catalog (front ++ back) s ((shownFields front s).map (fun _ => .accept) ++ rest))
      (objections (shownFields front s) s) := by
  induction front with
  | nil => exact ⟨[], rfl, rfl⟩
  | cons group front ih =>
      rw [List.cons_append, ← Stage.resume_start, Stage.start]
      cases visible : group.isVisible s with
      | false =>
          rw [shownFields_hidden visible] at steady ⊢
          rw [Stage.resume_hidden visible]
          exact (ih steady).afterAll rfl
      | true =>
          rw [shownFields_shown visible] at steady ⊢
          obtain ⟨here, further⟩ := List.forall_mem_append.1 steady
          rw [Stage.resume_shown visible, List.map_append, List.append_assoc, objections,
            List.filterMap_append]
          exact (goesBy_fields here (ih further)).afterAll rfl

end

end InstallerSetup.Form
