import InstallerSetup.Proofs.Form.Stage

/-!
# The way through a form

A run that is done has passed through its whole form. `Passes` follows the form group by group: the
groups that are shown with the fields settled in them (`Visit`), what happens on the way, and the
state in the end. The way of a run that reaches the end of its form is such a passage
(`passes_of_reaches`), and whatever answers are left behind those of a passage, the run with them
goes the same way (`Passes.run_eq`).
-/

namespace InstallerSetup.Form

/-! ## The moments of a field -/

section

variable {α β : Type} {fit? : α → Answer → Option α} {judge : α → Judgement β} {current : α}
  {given : List Answer} {stored : β}

/-- The answers behind those that settle a field leave no mark on its moments. -/
theorem ask_append_of_settles (info : Field.Info) (question : α → Question)
    (settles : Settles fit? judge current given stored) (rest : List Answer) :
    ask info question fit? judge current (given ++ rest) =
      ⟨(ask info question fit? judge current given).moments, rest, .ok stored⟩ := by
  induction settles with
  | accepted fits accepts =>
      rw [List.singleton_append, ask, ask]
      simp only [fits, accepts]
  | refused fits refuses _ ih =>
      rw [List.cons_append, ask, ask]
      simp only [fits, refuses, ih]
      rfl

def again (info : Field.Info) (repeated : Failure × Question) : List Moment :=
  [.refused info repeated.1, .asked info repeated.2]

/-- A field is asked for once, and again after each answer that is refused. -/
theorem moments_of_settles (info : Field.Info) (question : α → Question)
    (settles : Settles fit? judge current given stored) :
    ∃ (first : Question) (repeats : List (Failure × Question)),
      (ask info question fit? judge current given).moments =
      .asked info first :: repeats.flatMap (again info) ∧ given.length = repeats.length + 1 := by
  induction settles with
  | @accepted current value answer stored fits accepts =>
      refine ⟨question current, [], ?_, rfl⟩
      rw [ask]
      simp only [fits, accepts]
      rfl
  | @refused current value answer given stored refusal fits refuses _ ih =>
      obtain ⟨first, repeats, moments_eq, count⟩ := ih
      refine ⟨question current,
        (.invalidField info.title refusal.message, first) :: repeats, ?_, congrArg (· + 1) count⟩
      rw [ask]
      simp only [fits, refuses, Outcome.after, moments_eq]
      rfl

end

section

variable {ε : Type} [Change ε]

def Settlement.moments (step : Settlement ε) (catalog : Catalog) (s : State) : List Moment :=
  (step.field.ask catalog s step.given).moments

theorem Field.ask_append_of_settles {field : Field} {catalog : Catalog} {s : State}
    {given : List Answer} {edit : ε} (settles : field.Settles catalog s given edit)
    (rest : List Answer) :
    field.ask catalog s (given ++ rest) =
      ⟨Settlement.moments ⟨field, given, edit⟩ catalog s, rest, .ok (Change.apply edit s)⟩ := by
  obtain ⟨_, _, question, _, _, _, store, asks, settles_iff⟩ := field.ask_eq catalog s
  obtain ⟨value, settled, change_eq⟩ := (settles_iff given edit).1 settles
  unfold Settlement.moments
  rw [asks, asks, Form.ask_append_of_settles field.info question settled, change_eq]
  rfl

theorem Field.moments_of_settles {field : Field} {catalog : Catalog} {s : State}
    {given : List Answer} {edit : ε} (settles : field.Settles catalog s given edit) :
    ∃ (first : Question) (repeats : List (Failure × Question)),
      Settlement.moments ⟨field, given, edit⟩ catalog s =
      .asked field.info first :: repeats.flatMap (again field.info) ∧
        given.length = repeats.length + 1 := by
  obtain ⟨_, _, question, _, _, _, store, asks, settles_iff⟩ := field.ask_eq catalog s
  obtain ⟨value, settled, _⟩ := (settles_iff given edit).1 settles
  unfold Settlement.moments
  rw [asks]
  exact Form.moments_of_settles field.info question settled

/-! ## Passages -/

/-- A group that was shown, with the fields that were settled in it. -/
structure Visit (ε : Type) where
  group : Group
  steps : List (Settlement ε)

def Visit.given (visit : Visit ε) : List Answer := visit.steps.flatMap Settlement.given

inductive PassesFields (catalog : Catalog) :
    List Field → State → List (Settlement ε) → List Moment → State → Prop where
  | nil {s : State} : PassesFields catalog [] s [] [] s
  | cons {field : Field} {fields : List Field} {s t : State} {given : List Answer} {edit : ε}
      {steps : List (Settlement ε)} {moments : List Moment}
      (settles : field.Settles catalog s given edit)
      (later : PassesFields catalog fields (Change.apply edit s) steps moments t) :
      PassesFields catalog (field :: fields) s (⟨field, given, edit⟩ :: steps)
        (Settlement.moments ⟨field, given, edit⟩ catalog s ++ moments) t

/-- Every group is passed over or shown, and in those that are shown all fields are settled. -/
inductive Passes (catalog : Catalog) :
    Form → State → List (Visit ε) → List Moment → State → Prop where
  | nil {s : State} : Passes catalog [] s [] [] s
  | hidden {group : Group} {form : Form} {s t : State} {visits : List (Visit ε)}
      {moments : List Moment} (invisible : group.isVisible s = false)
      (later : Passes catalog form s visits moments t) :
      Passes catalog (group :: form) s visits (.hidden group.title :: moments) t
  | shown {group : Group} {form : Form} {s middle t : State} {steps : List (Settlement ε)}
      {within moments : List Moment} {visits : List (Visit ε)} (visible : group.isVisible s = true)
      (inside : PassesFields catalog group.fields s steps within middle)
      (later : Passes catalog form middle visits moments t) :
      Passes catalog (group :: form) s (⟨group, steps⟩ :: visits)
        (.began group.title :: (within ++ moments)) t

variable {catalog : Catalog} {s t : State}

/-! ## Passages are runs -/

namespace PassesFields

variable {fields : List Field} {steps : List (Settlement ε)} {moments : List Moment}

theorem run_eq (passes : PassesFields catalog fields s steps moments t) (rest : List Answer) :
    runFields catalog fields s (steps.flatMap Settlement.given ++ rest) =
      ⟨moments, rest, t, .ok ()⟩ := by
  induction passes with
  | nil => rfl
  | cons settles _ ih =>
      rw [List.flatMap_cons, List.append_assoc, runFields, Field.ask_append_of_settles settles]
      simp only [Report.ofOutcome, Report.andThen, ih]

theorem reaches (passes : PassesFields catalog fields s steps moments t) (groups : Form)
    (rest : List Answer) :
    Reaches catalog ⟨fields, groups, s, steps.flatMap Settlement.given ++ rest⟩ steps
      ⟨[], groups, t, rest⟩ := by
  induction passes with
  | nil => exact .first
  | cons settles _ ih =>
      rw [List.flatMap_cons, List.append_assoc]
      exact (Reaches.first.settled settles).trans ih

end PassesFields

namespace Passes

variable {form : Form} {visits : List (Visit ε)} {moments : List Moment}

/-- The run with the answers of a passage takes it, and leaves what is behind them. -/
theorem run_eq (passes : Passes catalog form s visits moments t) (rest : List Answer) :
    run catalog form s (visits.flatMap Visit.given ++ rest) = ⟨moments, rest, t, .ok ()⟩ := by
  induction passes with
  | nil => rfl
  | hidden invisible _ ih =>
      rw [run, if_neg (Bool.eq_false_iff.1 invisible), ih]
      rfl
  | shown visible inside _ ih =>
      rw [List.flatMap_cons, List.append_assoc, run, if_pos visible, Visit.given, inside.run_eq]
      simp only [Report.after, Report.andThen, ih, List.cons_append]

theorem reaches (passes : Passes catalog form s visits moments t) (rest : List Answer) :
    Reaches catalog (.start form s (visits.flatMap Visit.given ++ rest))
      (visits.flatMap Visit.steps) ⟨[], [], t, rest⟩ := by
  induction passes with
  | nil => exact .first
  | hidden invisible _ ih => exact (Reaches.first.hidden invisible).trans ih
  | @shown group form s middle t steps within moments visits visible inside _ ih =>
      rw [List.flatMap_cons, List.flatMap_cons, List.append_assoc]
      have entered : Reaches catalog
          (.start (group :: form) s
            (steps.flatMap Settlement.given ++ (visits.flatMap Visit.given ++ rest)))
          ([] : List (Settlement ε))
          ⟨group.fields, form, s,
            steps.flatMap Settlement.given ++ (visits.flatMap Visit.given ++ rest)⟩ :=
        Reaches.first.shown visible
      exact (entered.trans (inside.reaches form _)).trans ih

end Passes

/-! ## Runs that are done are passages -/

/-- The way from a stage to the end of the form. -/
def Stage.Passes (catalog : Catalog) (stage : Stage) (trace : List (Settlement ε)) (t : State) :
    Prop :=
  ∃ steps visits within moments middle, trace = steps ++ visits.flatMap Visit.steps ∧
    PassesFields catalog stage.fields stage.state steps within middle ∧
    Form.Passes catalog stage.groups middle visits moments t

/-- The way to a stage and the way on from there make up one way. -/
theorem Reaches.passes {first stage : Stage} {earlier later : List (Settlement ε)}
    (reached : Reaches catalog first earlier stage) (onward : stage.Passes catalog later t) :
    first.Passes catalog (earlier ++ later) t := by
  induction reached generalizing later with
  | first => exact onward
  | hidden _ invisible ih =>
      obtain ⟨steps, visits, within, moments, middle, rfl, inside, behind⟩ := onward
      cases inside
      exact ih ⟨[], visits, [], _, _, rfl, .nil, behind.hidden invisible⟩
  | @shown trace group groups s answers _ visible ih =>
      obtain ⟨steps, visits, within, moments, middle, rfl, inside, behind⟩ := onward
      exact ih ⟨[], ⟨group, steps⟩ :: visits, [], _, _, rfl, .nil, .shown visible inside behind⟩
  | settled _ settles ih =>
      obtain ⟨steps, visits, within, moments, middle, rfl, inside, behind⟩ := onward
      rw [List.append_assoc]
      exact ih ⟨_ :: steps, visits, _, moments, middle, rfl, .cons settles inside, behind⟩

variable {form : Form} {answers rest : List Answer} {trace : List (Settlement ε)}

theorem passes_of_reaches
    (reached : Reaches catalog (.start form s answers) trace ⟨[], [], t, rest⟩) :
    ∃ visits, visits.flatMap Visit.steps = trace ∧
      answers = visits.flatMap Visit.given ++ rest ∧
      Passes catalog form s visits (run catalog form s answers).moments t := by
  have ended : Stage.Passes catalog ⟨[], [], t, rest⟩ ([] : List (Settlement ε)) t :=
    ⟨[], [], [], [], t, rfl, .nil, .nil⟩
  obtain ⟨steps, visits, within, moments, middle, split, inside, behind⟩ := reached.passes ended
  cases inside
  have passes : Passes catalog form s visits moments t := behind
  rw [List.append_nil, List.nil_append] at split
  have answers_eq : answers = visits.flatMap Visit.given ++ rest := by
    have spent := reached.answers_eq
    rw [split, List.flatMap_assoc] at spent
    exact spent
  refine ⟨visits, split.symm, answers_eq, ?_⟩
  rw [answers_eq, passes.run_eq]
  exact passes

end

end InstallerSetup.Form
