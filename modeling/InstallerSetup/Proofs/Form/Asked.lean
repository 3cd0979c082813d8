import InstallerSetup.Proofs.Form.Stage

/-!
# What a run asks for

Every question is a moment of the report, so the report tells which fields were asked for. A run
that reaches the end of its form has asked for the fields that it settled and for no others.
-/

namespace InstallerSetup.Form

def Moment.field? : Moment → Option String
  | asked info _ => some info.title
  | _ => none

/-- The titles of the fields that were asked for, once for every question. -/
def Report.asked (r : Report) : List String := r.moments.filterMap Moment.field?

theorem Report.asked_afterAll (r : Report) (moments : List Moment) :
    (r.afterAll moments).asked = moments.filterMap Moment.field? ++ r.asked :=
  List.filterMap_append

/-- The questions of a field are all asked under its title, and there is at least one. -/
theorem mem_asked_ask {α β : Type} (info : Field.Info) (question : α → Question)
    (fit? : α → Answer → Option α) (judge : α → Judgement β) (current : α) (answers : List Answer)
    {title : String} :
    title ∈ (ask info question fit? judge current answers).moments.filterMap Moment.field? ↔
      title = info.title := by
  induction answers generalizing current with
  | nil => simp [ask, Moment.field?]
  | cons answer rest ih =>
      rw [ask]
      cases fit? current answer with
      | none => simp [Moment.field?]
      | some value =>
          cases verdict : judge value with
          | accepted stored => simp [verdict, Moment.field?]
          | noOption index => simp [verdict, Moment.field?]
          | refused refusal =>
              simp only [verdict, Outcome.after, List.filterMap_append, List.mem_append, ih]
              simp [Moment.field?]

theorem Field.mem_asked_ask (field : Field) (catalog : Catalog) (s : State) (answers : List Answer)
    {title : String} :
    title ∈ (field.ask catalog s answers).moments.filterMap Moment.field? ↔
      title = field.info.title := by
  obtain ⟨_, _, question, fit?, judge, current, store, asks, _⟩ := field.ask_eq catalog s
  rw [asks]
  exact Form.mem_asked_ask field.info question fit? judge current answers

namespace Stage

variable {catalog : Catalog} {group : Group} {groups : Form} {s : State} {answers : List Answer}
  {title : String}

theorem asked_resume_hidden (invisible : group.isVisible s = false) :
    (resume catalog ⟨[], group :: groups, s, answers⟩).asked =
      (resume catalog ⟨[], groups, s, answers⟩).asked := by
  rw [resume_hidden invisible, Report.asked_afterAll]
  rfl

theorem asked_resume_shown (visible : group.isVisible s = true) :
    (resume catalog ⟨[], group :: groups, s, answers⟩).asked =
      (resume catalog ⟨group.fields, groups, s, answers⟩).asked := by
  rw [resume_shown visible, Report.asked_afterAll]
  rfl

theorem mem_asked_resume_settled {ε : Type} [Change ε] {field : Field} {given : List Answer}
    {edit : ε} (settles : field.Settles catalog s given edit) (fields : List Field) (groups : Form)
    (rest : List Answer) :
    title ∈ (resume catalog ⟨field :: fields, groups, s, given ++ rest⟩).asked ↔
      title = field.info.title ∨
        title ∈ (resume catalog ⟨fields, groups, Change.apply edit s, rest⟩).asked := by
  have titles := @Field.mem_asked_ask field catalog s (given ++ rest) title
  obtain ⟨moments, asks⟩ := Field.ask_of_settles settles rest
  rw [asks] at titles
  have later : resume catalog ⟨field :: fields, groups, s, given ++ rest⟩ =
      (resume catalog ⟨fields, groups, Change.apply edit s, rest⟩).afterAll moments := by
    rw [resume_field, asks]
    rfl
  rw [later, Report.asked_afterAll, List.mem_append, titles]

end Stage

namespace Reaches

variable {ε : Type} [Change ε] {catalog : Catalog} {first stage : Stage}
  {trace : List (Settlement ε)} {title : String}

/-- Up to a stage the settled fields are asked for, and the rest of the run asks for the others. -/
theorem mem_asked (reached : Reaches catalog first trace stage) :
    title ∈ (first.resume catalog).asked ↔
      (∃ step ∈ trace, step.field.info.title = title) ∨
        title ∈ (stage.resume catalog).asked := by
  induction reached with
  | first => simp
  | hidden _ invisible ih => rw [ih, Stage.asked_resume_hidden invisible]
  | shown _ visible ih => rw [ih, Stage.asked_resume_shown visible]
  | settled _ settles ih =>
      rw [ih, Stage.mem_asked_resume_settled settles]
      simp only [List.mem_append, List.mem_singleton, or_and_right, exists_or, exists_eq_left,
        or_assoc, eq_comm]

/-- A run that has reached the end has asked for the settled fields. -/
theorem mem_asked_of_final {form : Form} {s t : State} {answers rest : List Answer}
    (reached : Reaches catalog (.start form s answers) trace ⟨[], [], t, rest⟩) :
    title ∈ (run catalog form s answers).asked ↔
      ∃ step ∈ trace, step.field.info.title = title := by
  rw [← Stage.resume_start, reached.mem_asked]
  have silent : (Stage.resume catalog ⟨[], [], t, rest⟩).asked = [] := rfl
  rw [silent, List.mem_nil_iff, or_false]

end Reaches

end InstallerSetup.Form
