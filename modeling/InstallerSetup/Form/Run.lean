import InstallerSetup.Failure
import InstallerSetup.Form.Answer
import InstallerSetup.Log
import InstallerSetup.Text.Blank

/-!
# Running a form

`Form.run` takes a form through a list of answers. A field is asked until its rule accepts an
answer; only then is anything stored, and the next field is reached. What happens on the way is a
list of moments. A run whose answers give out is aborted, so a dialogue can be held by running the
form again with one answer more: the new moments follow the old ones.
-/

namespace InstallerSetup

namespace Form

/-- What happens in a run. -/
inductive Moment where
  /-- A group was passed over. -/
  | hidden (title : String)
  | began (title : String)
  | asked (info : Field.Info) (question : Question)
  /-- The answer was refused. -/
  | refused (info : Field.Info) (failure : Failure)
  /-- There was no answer left. -/
  | unanswered (info : Field.Info)
  deriving Repr

/-- What the questions of one field come to. -/
structure Outcome (α : Type) where
  moments : List Moment
  remaining : List Answer
  result : Except Failure α

def Outcome.map {α β : Type} (f : α → β) (o : Outcome α) : Outcome β :=
  ⟨o.moments, o.remaining, o.result.map f⟩

def Outcome.after {α : Type} (o : Outcome α) (moments : List Moment) : Outcome α :=
  { o with moments := moments ++ o.moments }

/-- What becomes of an answer that fits. -/
inductive Judgement (α : Type) where
  | accepted (value : α)
  | refused (refusal : Refusal)
  /-- There is no option at the position. -/
  | noOption (index : Nat)

def unfit (info : Field.Info) (answer : Answer) : Failure :=
  .terminal
    ("scripted answer " ++ answer.describe ++ " does not fit field '" ++ info.title ++ "'")

def noOption (info : Field.Info) (index : Nat) : Failure :=
  .terminal (info.title ++ ": no option at index " ++ toString index)

/--
Asks until an answer is accepted. A question shows a current value, and an answer that is refused
becomes the current value of the next question.
-/
def ask {α β : Type} (info : Field.Info) (question : α → Question) (fit? : α → Answer → Option α)
    (judge : α → Judgement β) : α → List Answer → Outcome β
  | current, [] => ⟨[.asked info (question current), .unanswered info], [], .error .aborted⟩
  | current, answer :: rest =>
      let asked := Moment.asked info (question current)
      match fit? current answer with
      | none => ⟨[asked], rest, .error (unfit info answer)⟩
      | some value =>
          match judge value with
          | .accepted stored => ⟨[asked], rest, .ok stored⟩
          | .noOption index => ⟨[asked], rest, .error (noOption info index)⟩
          | .refused refusal =>
              (ask info question fit? judge value rest).after
                [asked, .refused info (.invalidField info.title refusal.message)]

def judgeBy {α : Type} (rule : α → Except Refusal Unit) (value : α) : Judgement α :=
  match rule value with
  | .ok () => .accepted value
  | .error refusal => .refused refusal

/-- The elements at some positions, or the first position without one. -/
def pick {α : Type} (options : List α) : List Nat → Except Nat (List α)
  | [] => .ok []
  | index :: rest =>
      match options[index]? with
      | none => .error index
      | some option =>
          match pick options rest with
          | .error index => .error index
          | .ok others => .ok (option :: others)

/-- The judgement of positions: all of them have options, and the rule accepts those. -/
def judgePicks (items : List Item) (rule : SetRule) (indices : List Nat) :
    Judgement (List String) :=
  match pick items indices with
  | .error index => .noOption index
  | .ok picked => judgeBy rule (picked.map Item.id)

def judgeChoice (choices : List Choice) (index : Nat) : Judgement Setting :=
  match choices[index]? with
  | none => .noOption index
  | some choice => .accepted choice.setting

def Field.ask (field : Field) (catalog : Catalog) (s : State) (answers : List Answer) :
    Outcome State :=
  match field.kind with
  | .input slot rule masked =>
      (Form.ask field.info (.input · masked) Answer.text? (judgeBy rule) (slot.get s) answers).map
        fun value => slot.set s value
  | .text slot rule =>
      (Form.ask field.info .text Answer.text? (judgeBy rule) (slot.get s) answers).map
        fun value => slot.set s value
  | .confirm slot yes no =>
      (Form.ask field.info (.confirm yes no) Answer.flag? .accepted (slot.get s) answers).map
        fun value => slot.set s value
  | .select choices =>
      let options := choices s catalog
      (Form.ask field.info (.select (options.map Choice.label)) Answer.index? (judgeChoice options)
          (startIndex options) answers).map
        fun setting => setting.store s
  | .multiSelect items slot rule =>
      let options := items s catalog
      (Form.ask field.info
          (fun indices => .multiSelect (options.map Item.label) (marks options.length indices))
          Answer.indices? (judgePicks options rule) (selectedIndices options) answers).map
        fun ids => slot.set s ids

/-- How a run went and the state it left behind, also when it stopped early. -/
structure Report where
  moments : List Moment
  remaining : List Answer
  state : State
  result : Except Failure Unit

namespace Report

def done (s : State) (answers : List Answer) : Report := ⟨[], answers, s, .ok ()⟩

def ofOutcome (s : State) (o : Outcome State) : Report :=
  match o.result with
  | .ok stored => ⟨o.moments, o.remaining, stored, .ok ()⟩
  | .error failure => ⟨o.moments, o.remaining, s, .error failure⟩

/-- Goes on with what follows, unless the run has stopped. -/
def andThen (r : Report) (next : State → List Answer → Report) : Report :=
  match r.result with
  | .error _ => r
  | .ok () =>
      let later := next r.state r.remaining
      { later with moments := r.moments ++ later.moments }

def after (r : Report) (moment : Moment) : Report := { r with moments := moment :: r.moments }

end Report

def runFields (catalog : Catalog) : List Field → State → List Answer → Report
  | [], s, answers => .done s answers
  | field :: rest, s, answers =>
      (Report.ofOutcome s (field.ask catalog s answers)).andThen (runFields catalog rest)

/-- Takes a form through a list of answers. -/
def run (catalog : Catalog) : Form → State → List Answer → Report
  | [], s, answers => .done s answers
  | group :: rest, s, answers =>
      if group.isVisible s then
        ((runFields catalog group.fields s answers).after (.began group.title)).andThen
          (run catalog rest)
      else (run catalog rest s answers).after (.hidden group.title)

namespace Moment

def logLine? : Moment → Option Log.Line
  | hidden title => some (Log.debugLine ("Skipping hidden group: " ++ Text.trimEnd title))
  | unanswered info =>
      some (Log.errorLine ("No scripted answer left for field: " ++ info.title))
  | _ => none

def group? : Moment → Option String
  | began title => some (Text.trim title)
  | _ => none

def rejection? : Moment → Option (String × String)
  | refused info failure => some (info.title, failure.complaint)
  | _ => none

end Moment

namespace Report

def log (r : Report) : Log := r.moments.filterMap Moment.logLine?

def groups (r : Report) : List String := r.moments.filterMap Moment.group?

def rejections (r : Report) : List (String × String) := r.moments.filterMap Moment.rejection?

end Report

end Form

end InstallerSetup
