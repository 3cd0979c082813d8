import InstallerSetup.Form.Installer
import InstallerSetup.Proofs.Form.Interview

/-!
# Further answers

An answer decides about what comes after it and about nothing before it. A run that has ended takes
no notice of answers behind its own, and a run that was aborted is the beginning of the run with
further answers (`Report.Extends`). This is shown for the questions of one field, by induction on
the answers to it, and carried through fields and groups (`run_extends`). So a dialogue can be held
by running the form again with one answer more.
-/

namespace InstallerSetup.Form

/-! ## What is said in a run -/

/-- A moment in which the user is addressed. -/
def Moment.isSaid : Moment → Bool
  | began _ | asked _ _ | refused _ _ => true
  | hidden _ | unanswered _ => false

namespace Report

def dialogue (r : Report) : List Moment := r.moments.filter Moment.isSaid

/-! ## Reports with further answers -/

/-- What further answers make of the report of a run. -/
inductive Extends (further : List Answer) : Report → Report → Prop where
  /-- They are left over. -/
  | ended {r : Report} (ends : r.result ≠ .error .aborted) :
      Extends further r { r with remaining := r.remaining ++ further }
  /-- They are taken where there was none. -/
  | resumed {before : List Moment} {info : Field.Info} {s : State} {longer : Report}
      (begins : before <+: longer.moments) :
      Extends further ⟨before ++ [.unanswered info], [], s, .error .aborted⟩ longer

theorem moments_ofOutcome (s : State) (o : Outcome State) :
    (ofOutcome s o).moments = o.moments := by
  obtain ⟨moments, remaining, result⟩ := o
  cases result <;> rfl

/-- What follows a report comes behind its moments. -/
theorem prefix_moments_andThen (r : Report) (next : State → List Answer → Report) :
    r.moments <+: (r.andThen next).moments := by
  obtain ⟨moments, remaining, s, result⟩ := r
  cases result with
  | error failure => exact List.prefix_rfl
  | ok _ => exact List.prefix_append _ _

namespace Extends

variable {further : List Answer} {short long : Report}

theorem afterAll (longer : short.Extends further long) (moments : List Moment) :
    (short.afterAll moments).Extends further (long.afterAll moments) := by
  cases longer with
  | ended ends => exact .ended ends
  | @resumed before info s _ begins =>
      have same : afterAll ⟨before ++ [.unanswered info], [], s, .error .aborted⟩ moments =
          ⟨(moments ++ before) ++ [.unanswered info], [], s, .error .aborted⟩ := by
        unfold Report.afterAll
        rw [List.append_assoc]
      rw [same]
      exact .resumed ((List.prefix_append_right_inj moments).2 begins)

/-- If further answers extend two runs, they extend the one behind the other. -/
theorem andThen (longer : short.Extends further long) {next : State → List Answer → Report}
    (later : ∀ s answers, (next s answers).Extends further (next s (answers ++ further))) :
    (short.andThen next).Extends further (long.andThen next) := by
  cases longer with
  | ended ends =>
      obtain ⟨moments, remaining, s, result⟩ := short
      cases result with
      | error failure => exact .ended ends
      | ok _ => exact (later s remaining).afterAll moments
  | resumed begins => exact .resumed (begins.trans (long.prefix_moments_andThen next))

/-- Further answers are left over unless there was none for a question. -/
theorem eq_of_ne_aborted (longer : short.Extends further long)
    (ends : short.result ≠ .error .aborted) :
    long = { short with remaining := short.remaining ++ further } := by
  cases longer with
  | ended _ => rfl
  | resumed _ => exact absurd rfl ends

/-- The dialogue of a run that was aborted is the beginning of the longer one. -/
theorem prefix_dialogue (longer : short.Extends further long)
    (aborted : short.result = .error .aborted) : short.dialogue <+: long.dialogue := by
  cases longer with
  | ended ends => exact absurd aborted ends
  | @resumed before info s _ begins =>
      have unsaid : (before ++ [Moment.unanswered info]).filter Moment.isSaid =
          before.filter Moment.isSaid := by
        rw [List.filter_append]
        exact List.append_nil _
      unfold dialogue
      rw [unsaid]
      exact begins.filter _

end Extends

end Report

/-! ## From one field to the whole form -/

section

variable {α β : Type} (info : Field.Info) (question : α → Question)
  (fit? : α → Answer → Option α) (judge : α → Judgement β) (current : α)

/-- Whatever the answers are, the question comes first. -/
theorem asked_prefix_ask (answers : List Answer) :
    [.asked info (question current)] <+:
      (ask info question fit? judge current answers).moments := by
  cases answers with
  | nil => exact List.prefix_append [Moment.asked info (question current)] _
  | cons answer rest =>
      rw [ask]
      cases fit? current answer with
      | none => exact List.prefix_rfl
      | some value =>
          simp only
          cases judge value with
          | accepted stored => exact List.prefix_rfl
          | noOption index => exact List.prefix_rfl
          | refused refusal => exact List.prefix_append [Moment.asked info (question current)] _

/-- The answers to one question extend, and so do those to the questions that repeat it. -/
theorem ask_extends (s : State) (store : β → State) (given further : List Answer) :
    (Report.ofOutcome s ((ask info question fit? judge current given).map store)).Extends further
      (.ofOutcome s ((ask info question fit? judge current (given ++ further)).map store)) := by
  induction given generalizing current with
  | nil =>
      -- the question that was left unanswered is the first one of the longer run
      have begins : [.asked info (question current)] <+:
          (Report.ofOutcome s
            ((ask info question fit? judge current further).map store)).moments := by
        rw [Report.moments_ofOutcome]
        exact asked_prefix_ask info question fit? judge current further
      exact .resumed begins
  | cons answer rest ih =>
      rw [List.cons_append, ask, ask]
      cases fit? current answer with
      | none => exact .ended fun aborted => by cases aborted
      | some value =>
          cases verdict : judge value with
          | accepted stored =>
              simp only [verdict]
              exact .ended fun aborted => by cases aborted
          | noOption index =>
              simp only [verdict]
              exact .ended fun aborted => by cases aborted
          | refused refusal =>
              have later := (ih value).afterAll [.asked info (question current),
                .refused info (.invalidField info.title refusal.message)]
              rw [← Report.ofOutcome_after, ← Report.ofOutcome_after] at later
              simp only [verdict]
              exact later

end

variable (catalog : Catalog)

theorem Field.ask_extends (field : Field) (s : State) (given further : List Answer) :
    (Report.ofOutcome s (field.ask catalog s given)).Extends further
      (.ofOutcome s (field.ask catalog s (given ++ further))) := by
  obtain ⟨_, _, question, fit?, judge, current, store, asks, _⟩ := field.ask_eq catalog s
  rw [asks, asks]
  exact Form.ask_extends field.info question fit? judge current s _ given further

theorem runFields_extends (fields : List Field) (s : State) (given further : List Answer) :
    (runFields catalog fields s given).Extends further
      (runFields catalog fields s (given ++ further)) := by
  induction fields generalizing s given with
  | nil => exact .ended nofun
  | cons field fields ih => exact (field.ask_extends catalog s given further).andThen ih

theorem run_extends (form : Form) (s : State) (given further : List Answer) :
    (run catalog form s given).Extends further (run catalog form s (given ++ further)) := by
  induction form generalizing s given with
  | nil => exact .ended nofun
  | cons group form ih =>
      rw [run, run]
      cases group.isVisible s with
      | true =>
          have inside := runFields_extends catalog group.fields s given further
          exact (inside.afterAll [.began group.title]).andThen ih
      | false => exact (ih s given).afterAll [.hidden group.title]

/-- A form in two parts, of which the first one does not run out of answers. -/
theorem run_append_of_ne_aborted {front : Form} {s : State} {given : List Answer}
    (ends : (run catalog front s given).result ≠ .error .aborted) (back : Form)
    (further : List Answer) :
    run catalog (front ++ back) s (given ++ further) =
      Report.andThen
        { run catalog front s given with
          remaining := (run catalog front s given).remaining ++ further }
        (run catalog back) := by
  rw [run_append, (run_extends catalog front s given further).eq_of_ne_aborted ends]

/--
Further answers do not change what was said and done before them. A run that is done, or that an
answer has ended, comes to the same with them and leaves them over; what is said in a run that was
aborted is what is said first in the run with further answers.
-/
theorem run_further_answers (form : Form) (s : State) (given further : List Answer) :
    let short := run catalog form s given
    let long := run catalog form s (given ++ further)
    (short.result = .ok () ∨ (∃ reason, short.result = .error (.terminal reason)) →
        long.dialogue = short.dialogue ∧ long.result = short.result ∧
          long.state = short.state ∧ long.remaining = short.remaining ++ further) ∧
      (short.result = .error .aborted → short.dialogue <+: long.dialogue) := by
  intro short long
  refine ⟨fun ending => ?_, fun aborted => ?_⟩
  · have ends : short.result ≠ .error .aborted := by
      rcases ending with done | ⟨reason, failed⟩
      · rw [done]
        nofun
      · rw [failed]
        nofun
    have long_eq : long = { short with remaining := short.remaining ++ further } :=
      (run_extends catalog form s given further).eq_of_ne_aborted ends
    rw [long_eq]
    exact ⟨rfl, rfl, rfl, rfl⟩
  · exact (run_extends catalog form s given further).prefix_dialogue aborted

/--
A name is refused and the next one is accepted. Then there is no answer left, or one that fits no
domain, which ends the run and leaves the last answer over.
-/
theorem run_further_answers_of_unfit :
    let start : State := .start .initial .initial
    let given : List Answer := [.text "Demo", .text "demo"]
    let unfitting := given ++ [.confirm true]
    (run .empty installer start given).result = .error .aborted ∧
      (run .empty installer start given).dialogue <+:
        (run .empty installer start unfitting).dialogue ∧
      (∃ reason, (run .empty installer start unfitting).result = .error (.terminal reason)) ∧
      (run .empty installer start (unfitting ++ [.accept])).dialogue =
        (run .empty installer start unfitting).dialogue ∧
      (run .empty installer start (unfitting ++ [.accept])).remaining = [.accept] := by
  intro start given unfitting
  have aborted : (run .empty installer start given).result = .error .aborted := rfl
  have failed : ∃ reason,
      (run .empty installer start unfitting).result = .error (.terminal reason) := ⟨_, rfl⟩
  obtain ⟨_, begins⟩ := run_further_answers .empty installer start given [.confirm true]
  obtain ⟨ended, _⟩ := run_further_answers .empty installer start unfitting [.accept]
  obtain ⟨said, _, _, left⟩ := ended (.inr failed)
  exact ⟨aborted, begins aborted, failed, said, left⟩

end InstallerSetup.Form
