import InstallerSetup.Proofs.Form.Stage
import Mathlib.Data.List.Sort

/-!
# Interviews

What it means to ask for one field, said by what the user sees. Every question shows the value that
its answer starts from; an answer is read against the question that it was given to, and if the
field refuses it, the same question is asked again from the refused value. `Field.Interview` relates
the answers to the report that comes of them, and asking for a field is nothing else
(`Field.report_eq_iff_interview`). An interview that ends without an accepted answer leaves the
state as it was, and an accepted answer changes nothing but the slot of the field.
-/

namespace InstallerSetup.Form

/-! ## Values and the questions that show them -/

/-- What an answer to a question comes to. -/
inductive Value where
  | text (content : String)
  | flag (content : Bool)
  /-- The position of an option. -/
  | option (index : Nat)
  /-- The positions of some options, in increasing order. -/
  | options (indices : List Nat)

def markedPositions (marked : List Bool) : List Nat :=
  (List.range marked.length).filter fun i => (marked[i]?).getD false

namespace Question

def start : Question → Value
  | input current _ => .text current
  | text current => .text current
  | confirm _ _ current => .flag current
  | select _ index => .option index
  | multiSelect _ selected => .options (markedPositions selected)

/-- What an answer to a question comes to, if it is of the right kind. -/
def reading? (question : Question) (answer : Answer) : Option Value :=
  match question, answer with
  | _, .accept => some question.start
  | input _ _, .text content | text _, .text content => some (.text content)
  | confirm _ _ _, .confirm content => some (.flag content)
  | select _ _, .choose index => some (.option index)
  | multiSelect _ _, .chooseMany indices => some (.options (Answer.ordered indices))
  | _, _ => none

def showing (question : Question) (value : Value) : Question :=
  match question, value with
  | input _ masked, .text content => input content masked
  | text _, .text content => text content
  | confirm yes no _, .flag content => confirm yes no content
  | select options _, .option index => select options index
  | multiSelect options _, .options indices => multiSelect options (marks options.length indices)
  | question, _ => question

end Question

/-! ## What a field makes of a value -/

/-- Some options lie at some positions, one at each. -/
def AtPositions (items : List Item) (indices : List Nat) (ids : List String) : Prop :=
  List.Forall₂ (fun index id => ∃ item, items[index]? = some item ∧ item.id = id) indices ids

/-- A kind of field accepts a value, and storing it makes another state. -/
inductive Field.Kind.Accepts (catalog : Catalog) (s : State) :
    Field.Kind → Value → State → Prop where
  | input {slot : TextSlot} {rule : Rule} {masked : Bool} {content : String}
      (passes : rule content = .ok ()) :
      Accepts catalog s (.input slot rule masked) (.text content) (slot.set s content)
  | text {slot : TextSlot} {rule : Rule} {content : String} (passes : rule content = .ok ()) :
      Accepts catalog s (.text slot rule) (.text content) (slot.set s content)
  | confirm {slot : FlagSlot} {yes no : String} {content : Bool} :
      Accepts catalog s (.confirm slot yes no) (.flag content) (slot.set s content)
  | select {choices : State → Catalog → List Choice} {index : Nat} {choice : Choice}
      (offered : (choices s catalog)[index]? = some choice) :
      Accepts catalog s (.select choices) (.option index) (choice.setting.store s)
  | multiSelect {items : State → Catalog → List Item} {slot : ListSlot} {rule : SetRule}
      {indices : List Nat} {ids : List String} (offered : AtPositions (items s catalog) indices ids)
      (passes : rule ids = .ok ()) :
      Accepts catalog s (.multiSelect items slot rule) (.options indices) (slot.set s ids)

/--
A value is stored in the slot of a kind of field and nothing else has changed, or the setting of the
option at a position has been stored.
-/
def Field.Kind.Stored (catalog : Catalog) (s₀ s : State) : Field.Kind → Value → Prop
  | .input slot _ _, .text content | .text slot _, .text content => slot.OnlyChange content s₀ s
  | .confirm slot _ _, .flag content => slot.OnlyChange content s₀ s
  | .select choices, .option index =>
      ∃ choice, (choices s₀ catalog)[index]? = some choice ∧ s = choice.setting.store s₀
  | .multiSelect items slot _, .options indices =>
      ∃ ids, AtPositions (items s₀ catalog) indices ids ∧ slot.OnlyChange ids s₀ s
  | _, _ => False

theorem Field.Kind.Accepts.stored {catalog : Catalog} {s t : State} {kind : Field.Kind}
    {value : Value} (accepts : kind.Accepts catalog s value t) : kind.Stored catalog s t value := by
  cases accepts with
  | input _ => exact Slot.onlyChange_set _ s _
  | text _ => exact Slot.onlyChange_set _ s _
  | confirm => exact Slot.onlyChange_set _ s _
  | select offered => exact ⟨_, offered, rfl⟩
  | multiSelect offered _ => exact ⟨_, offered, Slot.onlyChange_set _ s _⟩

inductive Field.Kind.Refuses (catalog : Catalog) (s : State) :
    Field.Kind → Value → Refusal → Prop where
  | input {slot : TextSlot} {rule : Rule} {masked : Bool} {content : String} {refusal : Refusal}
      (fails : rule content = .error refusal) :
      Refuses catalog s (.input slot rule masked) (.text content) refusal
  | text {slot : TextSlot} {rule : Rule} {content : String} {refusal : Refusal}
      (fails : rule content = .error refusal) :
      Refuses catalog s (.text slot rule) (.text content) refusal
  | multiSelect {items : State → Catalog → List Item} {slot : ListSlot} {rule : SetRule}
      {indices : List Nat} {ids : List String} {refusal : Refusal}
      (offered : AtPositions (items s catalog) indices ids) (fails : rule ids = .error refusal) :
      Refuses catalog s (.multiSelect items slot rule) (.options indices) refusal

/-- A value goes beyond the options of a kind of field; the first such position counts. -/
inductive Field.Kind.Lacks (catalog : Catalog) (s : State) : Field.Kind → Value → Nat → Prop where
  | select {choices : State → Catalog → List Choice} {index : Nat}
      (beyond : (choices s catalog).length ≤ index) :
      Lacks catalog s (.select choices) (.option index) index
  | multiSelect {items : State → Catalog → List Item} {slot : ListSlot} {rule : SetRule}
      {indices : List Nat} {index : Nat}
      (beyond : indices.find? (fun i => (items s catalog).length ≤ i) = some index) :
      Lacks catalog s (.multiSelect items slot rule) (.options indices) index

/-! ## The course of an interview -/

/-- An answer that was refused, with the reason and the question that was asked again. -/
structure Rebuff where
  answer : Answer
  refusal : Refusal
  next : Question

def Rebuff.moments (info : Field.Info) (rebuff : Rebuff) : List Moment :=
  [.refused info (.invalidField info.title rebuff.refusal.message), .asked info rebuff.next]

namespace Field

def opening (field : Field) (catalog : Catalog) (s : State) : Question :=
  match field.kind with
  | .input slot _ masked => .input (slot.get s) masked
  | .text slot _ => .text (slot.get s)
  | .confirm slot yes no => .confirm yes no (slot.get s)
  | .select choices =>
      .select ((choices s catalog).map Choice.label) (startIndex (choices s catalog))
  | .multiSelect items _ _ =>
      .multiSelect ((items s catalog).map Item.label) ((items s catalog).map Item.selected)

/-- Answers that are refused one after the other, and the question that is asked after them. -/
inductive Repeats (field : Field) (catalog : Catalog) (s : State) :
    Question → List Rebuff → Question → Prop where
  | first {question : Question} : Repeats field catalog s question [] question
  | again {question last : Question} {answer : Answer} {value : Value} {refusal : Refusal}
      {rebuffs : List Rebuff} (reads : question.reading? answer = some value)
      (refuses : field.kind.Refuses catalog s value refusal)
      (later : Repeats field catalog s (question.showing value) rebuffs last) :
      Repeats field catalog s question (⟨answer, refusal, question.showing value⟩ :: rebuffs) last

/-- How the answers to the last question end an interview. -/
inductive Ends (field : Field) (catalog : Catalog) (s : State) (last : Question) :
    List Answer → Report → Prop where
  | stored {answer : Answer} {rest : List Answer} {value : Value} {t : State}
      (reads : last.reading? answer = some value)
      (accepts : field.kind.Accepts catalog s value t) :
      Ends field catalog s last (answer :: rest) ⟨[], rest, t, .ok ()⟩
  | unfit {answer : Answer} {rest : List Answer} (misfits : last.reading? answer = none) :
      Ends field catalog s last (answer :: rest) ⟨[], rest, s, .error (unfit field.info answer)⟩
  | noOption {answer : Answer} {rest : List Answer} {value : Value} {index : Nat}
      (reads : last.reading? answer = some value)
      (lacks : field.kind.Lacks catalog s value index) :
      Ends field catalog s last (answer :: rest) ⟨[], rest, s, .error (noOption field.info index)⟩
  | unanswered :
      Ends field catalog s last [] ⟨[.unanswered field.info], [], s, .error .aborted⟩

/-- Answers to a field, and the report that comes of them. -/
def Interview (field : Field) (catalog : Catalog) (s : State) (answers : List Answer)
    (report : Report) : Prop :=
  ∃ rebuffs last later ending,
    field.Repeats catalog s (field.opening catalog s) rebuffs last ∧
      answers = rebuffs.map Rebuff.answer ++ later ∧ field.Ends catalog s last later ending ∧
      report = ending.afterAll
        (.asked field.info (field.opening catalog s) ::
          rebuffs.flatMap (Rebuff.moments field.info))

end Field

/-! ## Positions in increasing order -/

theorem increasing_eraseRepsLoop {before rest : List Nat} {last : Nat}
    (increasing : (before.reverse ++ [last]).Pairwise (· < ·))
    (sorted : (last :: rest).Pairwise (· ≤ ·)) :
    (List.eraseRepsBy.loop (· == ·) last rest before).Pairwise (· < ·) := by
  induction rest generalizing last before with
  | nil => simpa [List.eraseRepsBy.loop] using increasing
  | cons next rest ih =>
      obtain ⟨above, tail⟩ := List.pairwise_cons.1 sorted
      unfold List.eraseRepsBy.loop
      by_cases same : last = next
      · subst same
        rw [beq_self_eq_true]
        exact ih increasing tail
      · rw [beq_false_of_ne same]
        have less : last < next := Nat.lt_of_le_of_ne (above next List.mem_cons_self) same
        refine ih ?_ tail
        rw [List.reverse_cons]
        refine List.pairwise_append.2 ⟨increasing, List.pairwise_singleton _ _, ?_⟩
        intro earlier member later only
        obtain rfl := List.mem_singleton.1 only
        rcases List.mem_append.1 member with front | back
        · have below := (List.pairwise_append.1 increasing).2.2 earlier front last
            List.mem_cons_self
          exact Nat.lt_trans below less
        · obtain rfl := List.mem_singleton.1 back
          exact less

theorem increasing_ordered (indices : List Nat) :
    (Answer.ordered indices).Pairwise (· < ·) := by
  have sorted : (indices.mergeSort fun a b => a ≤ b).Pairwise (· ≤ ·) :=
    List.pairwise_mergeSort' (· ≤ ·) indices
  unfold Answer.ordered List.eraseReps List.eraseRepsBy
  split
  · exact List.Pairwise.nil
  · next last rest split =>
      rw [split] at sorted
      exact increasing_eraseRepsLoop (List.pairwise_singleton _ _) sorted

def ArePositions (count : Nat) (indices : List Nat) : Prop :=
  indices.Pairwise (· < ·) ∧ ∀ index ∈ indices, index < count

/-- What is marked are the positions that were to be marked. -/
theorem markedPositions_marks {count : Nat} {indices : List Nat}
    (positions : ArePositions count indices) :
    markedPositions (marks count indices) = indices := by
  obtain ⟨increasing, within⟩ := positions
  unfold markedPositions
  refine (List.pairwise_lt_range.filter _).eq_of_mem_iff increasing fun index => ?_
  simp only [marks, List.length_map, List.length_range, List.mem_filter, List.mem_range]
  constructor
  · rintro ⟨inside, marked⟩
    simpa [inside] using marked
  · intro member
    have inside := within index member
    exact ⟨inside, by simpa [inside] using member⟩

theorem arePositions_selectedIndices (items : List Item) :
    ArePositions items.length (selectedIndices items) := by
  refine ⟨List.pairwise_lt_range.filter _, fun index member => ?_⟩
  exact List.mem_range.1 (List.mem_filter.1 member).1

theorem marks_selectedIndices (items : List Item) :
    marks items.length (selectedIndices items) = items.map Item.selected := by
  refine List.ext_getElem (by simp [marks]) fun index inside inside' => ?_
  have within : index < items.length := by simpa using inside'
  simp [marks, selectedIndices, within]

/-! ## Options at positions -/

theorem atPositions_of_pick {items picked : List Item} {indices : List Nat}
    (found : pick items indices = .ok picked) :
    AtPositions items indices (picked.map Item.id) := by
  induction indices generalizing picked with
  | nil =>
      cases found
      exact .nil
  | cons index rest ih =>
      unfold pick at found
      split at found
      · cases found
      · next item here =>
          split at found
          · cases found
          · next others later =>
              cases found
              exact .cons ⟨item, here, rfl⟩ (ih later)

/-- The first position without an option is the one that is missed. -/
theorem find?_of_pick {items : List Item} {indices : List Nat} {index : Nat}
    (missed : pick items indices = .error index) :
    indices.find? (fun i => items.length ≤ i) = some index := by
  induction indices with
  | nil => cases missed
  | cons first rest ih =>
      unfold pick at missed
      split at missed
      · next absent =>
          cases missed
          have beyond := List.getElem?_eq_none_iff.1 absent
          simp [beyond]
      · next item here =>
          split at missed
          · next other later =>
              cases missed
              have inside := (List.getElem?_eq_some_iff.1 here).1
              rw [List.find?_cons_of_neg (by simpa using inside)]
              exact ih later
          · cases missed

theorem AtPositions.within {items : List Item} {indices : List Nat} {ids : List String}
    (offered : AtPositions items indices ids) : ∀ index ∈ indices, index < items.length := by
  induction offered with
  | nil => exact List.forall_mem_nil _
  | cons here _ ih =>
      obtain ⟨item, found, _⟩ := here
      exact List.forall_mem_cons.2 ⟨(List.getElem?_eq_some_iff.1 found).1, ih⟩

/-! ## Asking is an interview -/

/-- The questions and verdicts of a field are those that its kind tells of. -/
structure Field.Conducts (field : Field) (catalog : Catalog) (s : State) {α β : Type}
    (question : α → Question) (fit? : α → Answer → Option α) (judge : α → Judgement β)
    (value : α → Value) (store : β → State) (sound : α → Prop) : Prop where
  reads : ∀ current, sound current → ∀ answer,
    (question current).reading? answer = (fit? current answer).map value
  shows : ∀ current next, (question current).showing (value next) = question next
  accepts : ∀ current stored, judge current = .accepted stored →
    field.kind.Accepts catalog s (value current) (store stored)
  refuses : ∀ current refusal, judge current = .refused refusal →
    field.kind.Refuses catalog s (value current) refusal
  lacks : ∀ current index, judge current = .noOption index →
    field.kind.Lacks catalog s (value current) index
  /-- What is shown again after a refusal is sound if what was shown before is. -/
  keeps : ∀ current answer next refusal, sound current → fit? current answer = some next →
    judge next = .refused refusal → sound next

theorem Report.ofOutcome_after (s : State) (o : Outcome State) (moments : List Moment) :
    ofOutcome s (o.after moments) = (ofOutcome s o).afterAll moments := by
  obtain ⟨own, remaining, result⟩ := o
  cases result <;> rfl

namespace Field

variable {catalog : Catalog} {s : State}

theorem conducts_input (info : Info) (slot : TextSlot) (rule : Rule) (masked : Bool) :
    Conducts ⟨info, .input slot rule masked⟩ catalog s (.input · masked) Answer.text?
      (judgeBy rule) .text (slot.set s) fun _ => True where
  reads current _ answer := by cases answer <;> rfl
  shows _ _ := rfl
  accepts current stored judged := by
    obtain ⟨passes, rfl⟩ := judgeBy_eq_accepted judged
    exact .input passes
  refuses current refusal judged := .input (judgeBy_eq_refused judged)
  lacks current index judged := absurd judged judgeBy_ne_noOption
  keeps _ _ _ _ _ _ _ := trivial

theorem conducts_text (info : Info) (slot : TextSlot) (rule : Rule) :
    Conducts ⟨info, .text slot rule⟩ catalog s .text Answer.text? (judgeBy rule) .text
      (slot.set s) fun _ => True where
  reads current _ answer := by cases answer <;> rfl
  shows _ _ := rfl
  accepts current stored judged := by
    obtain ⟨passes, rfl⟩ := judgeBy_eq_accepted judged
    exact .text passes
  refuses current refusal judged := .text (judgeBy_eq_refused judged)
  lacks current index judged := absurd judged judgeBy_ne_noOption
  keeps _ _ _ _ _ _ _ := trivial

theorem conducts_confirm (info : Info) (slot : FlagSlot) (yes no : String) :
    Conducts ⟨info, .confirm slot yes no⟩ catalog s (.confirm yes no) Answer.flag? .accepted .flag
      (slot.set s) fun _ => True where
  reads current _ answer := by cases answer <;> rfl
  shows _ _ := rfl
  accepts current stored judged := by
    cases judged
    exact .confirm
  refuses current refusal judged := nomatch judged
  lacks current index judged := nomatch judged
  keeps _ _ _ _ _ _ _ := trivial

theorem conducts_select (info : Info) (choices : State → Catalog → List Choice) :
    Conducts ⟨info, .select choices⟩ catalog s
      (.select ((choices s catalog).map Choice.label)) Answer.index?
      (judgeChoice (choices s catalog)) .option (fun setting => setting.store s)
      fun _ => True where
  reads current _ answer := by cases answer <;> rfl
  shows _ _ := rfl
  accepts current stored judged := by
    unfold judgeChoice at judged
    split at judged
    · cases judged
    · next choice found =>
        cases judged
        exact .select found
  refuses current refusal judged := by
    unfold judgeChoice at judged
    split at judged <;> cases judged
  lacks current index judged := by
    unfold judgeChoice at judged
    split at judged
    · next absent =>
        cases judged
        exact .select (List.getElem?_eq_none_iff.1 absent)
    · cases judged
  keeps _ _ _ _ _ _ _ := trivial

theorem conducts_multiSelect (info : Info) (items : State → Catalog → List Item)
    (slot : ListSlot) (rule : SetRule) :
    Conducts ⟨info, .multiSelect items slot rule⟩ catalog s
      (fun indices => .multiSelect ((items s catalog).map Item.label)
        (marks (items s catalog).length indices))
      Answer.indices? (judgePicks (items s catalog) rule) .options (slot.set s)
      (ArePositions (items s catalog).length) where
  reads current positions answer := by
    cases answer with
    | accept => exact congrArg (some ∘ Value.options) (markedPositions_marks positions)
    | _ => rfl
  shows current next := by simp only [Question.showing, List.length_map]
  accepts current stored judged := by
    unfold judgePicks at judged
    split at judged
    · cases judged
    · next picked found =>
        obtain ⟨passes, rfl⟩ := judgeBy_eq_accepted judged
        exact .multiSelect (atPositions_of_pick found) passes
  refuses current refusal judged := by
    unfold judgePicks at judged
    split at judged
    · cases judged
    · next picked found =>
        exact .multiSelect (atPositions_of_pick found) (judgeBy_eq_refused judged)
  lacks current index judged := by
    unfold judgePicks at judged
    split at judged
    · next missed =>
        cases judged
        exact .multiSelect (find?_of_pick missed)
    · exact absurd judged judgeBy_ne_noOption
  keeps current answer next refusal positions fits judged := by
    have within : ∀ index ∈ next, index < (items s catalog).length := by
      unfold judgePicks at judged
      split at judged
      · cases judged
      · next picked found => exact (atPositions_of_pick found).within
    cases answer with
    | accept =>
        cases fits
        exact positions
    | chooseMany indices =>
        cases fits
        exact ⟨increasing_ordered indices, within⟩
    | _ => cases fits

/-- Every field is asked for by questions and verdicts that its kind tells of. -/
theorem exists_conducts (field : Field) (catalog : Catalog) (s : State) :
    ∃ (α β : Type) (question : α → Question) (fit? : α → Answer → Option α)
      (judge : α → Judgement β) (value : α → Value) (store : β → State) (sound : α → Prop)
      (current : α),
      field.Conducts catalog s question fit? judge value store sound ∧ sound current ∧
        question current = field.opening catalog s ∧
        ∀ answers, field.ask catalog s answers =
          (Form.ask field.info question fit? judge current answers).map store := by
  obtain ⟨info, kind⟩ := field
  cases kind with
  | input slot rule masked =>
      exact ⟨_, _, _, _, _, _, _, _, _, conducts_input info slot rule masked, trivial, rfl,
        fun _ => rfl⟩
  | text slot rule =>
      exact ⟨_, _, _, _, _, _, _, _, _, conducts_text info slot rule, trivial, rfl, fun _ => rfl⟩
  | confirm slot yes no =>
      exact ⟨_, _, _, _, _, _, _, _, _, conducts_confirm info slot yes no, trivial, rfl,
        fun _ => rfl⟩
  | select choices =>
      exact ⟨_, _, _, _, _, _, _, _, _, conducts_select info choices, trivial, rfl, fun _ => rfl⟩
  | multiSelect items slot rule =>
      refine ⟨_, _, _, _, _, _, _, _, _, conducts_multiSelect info items slot rule,
        arePositions_selectedIndices (items s catalog), ?_, fun _ => rfl⟩
      exact congrArg (Question.multiSelect _) (marks_selectedIndices (items s catalog))

/-- Asking goes on as an interview does, whatever is shown first. -/
theorem Conducts.report {field : Field} {α β : Type} {question : α → Question}
    {fit? : α → Answer → Option α} {judge : α → Judgement β} {value : α → Value}
    {store : β → State} {sound : α → Prop}
    (conducts : field.Conducts catalog s question fit? judge value store sound) {current : α}
    (shown : sound current) (answers : List Answer) :
    ∃ rebuffs last later ending,
      field.Repeats catalog s (question current) rebuffs last ∧
        answers = rebuffs.map Rebuff.answer ++ later ∧ field.Ends catalog s last later ending ∧
        .ofOutcome s ((Form.ask field.info question fit? judge current answers).map store) =
          ending.afterAll (.asked field.info (question current) ::
            rebuffs.flatMap (Rebuff.moments field.info)) := by
  induction answers generalizing current with
  | nil => exact ⟨[], _, [], _, .first, rfl, .unanswered, rfl⟩
  | cons answer rest ih =>
      have reading := conducts.reads current shown answer
      rw [Form.ask]
      cases fits : fit? current answer with
      | none =>
          rw [fits] at reading
          exact ⟨[], _, _, _, .first, rfl, .unfit reading, rfl⟩
      | some next =>
          rw [fits] at reading
          cases judged : judge next with
          | accepted stored =>
              refine ⟨[], _, _, _, .first, rfl,
                .stored reading (conducts.accepts next stored judged), ?_⟩
              simp only [judged]
              rfl
          | noOption index =>
              refine ⟨[], _, _, _, .first, rfl,
                .noOption reading (conducts.lacks next index judged), ?_⟩
              simp only [judged]
              rfl
          | refused refusal =>
              have refuses := conducts.refuses next refusal judged
              obtain ⟨rebuffs, last, later, ending, repeats, split, ends, reported⟩ :=
                ih (conducts.keeps current answer next refusal shown fits judged)
              have asked := conducts.shows current next
              rw [← asked] at repeats reported
              refine ⟨⟨answer, refusal, (question current).showing (value next)⟩ :: rebuffs, last,
                later, ending, .again reading refuses repeats,
                congrArg (List.cons answer) split, ends, ?_⟩
              simp only [judged]
              change Report.ofOutcome s (Outcome.after (Outcome.map _ _) _) = _
              rw [Report.ofOutcome_after, reported, Report.afterAll_afterAll]
              rfl

end Field

/-! ## There is one interview for given answers -/

theorem AtPositions.unique {items : List Item} {indices : List Nat} {ids ids' : List String}
    (offered : AtPositions items indices ids) (offered' : AtPositions items indices ids') :
    ids = ids' := by
  induction offered generalizing ids' with
  | nil =>
      cases offered'
      rfl
  | cons here _ ih =>
      cases offered' with
      | cons here' later =>
          obtain ⟨item, found, rfl⟩ := here
          obtain ⟨item', found', rfl⟩ := here'
          obtain rfl := Option.some.inj (found.symm.trans found')
          rw [ih later]

theorem AtPositions.find?_eq_none {items : List Item} {indices : List Nat} {ids : List String}
    (offered : AtPositions items indices ids) :
    indices.find? (fun i => items.length ≤ i) = none := by
  refine List.find?_eq_none.2 fun index member => ?_
  simpa using offered.within index member

namespace Field.Kind

variable {catalog : Catalog} {s : State} {kind : Field.Kind} {value : Value}

theorem Accepts.unique {t t' : State} (accepts : kind.Accepts catalog s value t)
    (accepts' : kind.Accepts catalog s value t') : t = t' := by
  cases accepts with
  | select offered =>
      cases accepts' with
      | select offered' => rw [Option.some.inj (offered.symm.trans offered')]
  | multiSelect offered _ =>
      cases accepts' with
      | multiSelect offered' _ => rw [offered.unique offered']
  | _ =>
      cases accepts'
      rfl

theorem Refuses.unique {refusal refusal' : Refusal} (refuses : kind.Refuses catalog s value refusal)
    (refuses' : kind.Refuses catalog s value refusal') : refusal = refusal' := by
  cases refuses with
  | input fails =>
      cases refuses' with
      | input fails' => exact Except.error.inj (fails.symm.trans fails')
  | text fails =>
      cases refuses' with
      | text fails' => exact Except.error.inj (fails.symm.trans fails')
  | multiSelect offered fails =>
      cases refuses' with
      | multiSelect offered' fails' =>
          obtain rfl := offered.unique offered'
          exact Except.error.inj (fails.symm.trans fails')

theorem Lacks.unique {index index' : Nat} (lacks : kind.Lacks catalog s value index)
    (lacks' : kind.Lacks catalog s value index') : index = index' := by
  cases lacks with
  | select _ =>
      cases lacks'
      rfl
  | multiSelect beyond =>
      cases lacks' with
      | multiSelect beyond' => exact Option.some.inj (beyond.symm.trans beyond')

theorem Accepts.not_refuses {t : State} (accepts : kind.Accepts catalog s value t)
    {refusal : Refusal} : ¬ kind.Refuses catalog s value refusal := by
  intro refuses
  cases refuses with
  | input fails =>
      cases accepts with
      | input passes => exact nomatch passes.symm.trans fails
  | text fails =>
      cases accepts with
      | text passes => exact nomatch passes.symm.trans fails
  | multiSelect offered fails =>
      cases accepts with
      | multiSelect offered' passes =>
          obtain rfl := offered.unique offered'
          exact nomatch passes.symm.trans fails

theorem Lacks.not_accepts {index : Nat} (lacks : kind.Lacks catalog s value index) {t : State} :
    ¬ kind.Accepts catalog s value t := by
  intro accepts
  cases lacks with
  | select beyond =>
      cases accepts with
      | select offered => exact absurd (List.getElem?_eq_some_iff.1 offered).1 (by omega)
  | multiSelect beyond =>
      cases accepts with
      | multiSelect offered _ => exact nomatch offered.find?_eq_none.symm.trans beyond

theorem Lacks.not_refuses {index : Nat} (lacks : kind.Lacks catalog s value index)
    {refusal : Refusal} : ¬ kind.Refuses catalog s value refusal := by
  intro refuses
  cases lacks with
  | select beyond => cases refuses
  | multiSelect beyond =>
      cases refuses with
      | multiSelect offered _ => exact nomatch offered.find?_eq_none.symm.trans beyond

end Field.Kind

namespace Field

variable {field : Field} {catalog : Catalog} {s : State}

/-- An answer that is refused does not end an interview. -/
theorem Ends.not_refused {last : Question} {answer : Answer} {rest : List Answer} {ending : Report}
    (ends : field.Ends catalog s last (answer :: rest) ending) {value : Value}
    (reads : last.reading? answer = some value) {refusal : Refusal} :
    ¬ field.kind.Refuses catalog s value refusal := by
  cases ends with
  | stored reads' accepts =>
      obtain rfl := Option.some.inj (reads'.symm.trans reads)
      exact accepts.not_refuses
  | unfit misfits => exact nomatch misfits.symm.trans reads
  | noOption reads' lacks =>
      obtain rfl := Option.some.inj (reads'.symm.trans reads)
      exact lacks.not_refuses

theorem Ends.unique {last : Question} {answers : List Answer} {ending ending' : Report}
    (ends : field.Ends catalog s last answers ending)
    (ends' : field.Ends catalog s last answers ending') : ending = ending' := by
  cases ends with
  | stored reads accepts =>
      cases ends' with
      | stored reads' accepts' =>
          obtain rfl := Option.some.inj (reads.symm.trans reads')
          rw [accepts.unique accepts']
      | unfit misfits => exact nomatch misfits.symm.trans reads
      | noOption reads' lacks =>
          obtain rfl := Option.some.inj (reads.symm.trans reads')
          exact absurd accepts lacks.not_accepts
  | unfit misfits =>
      cases ends' with
      | stored reads _ => exact nomatch misfits.symm.trans reads
      | unfit _ => rfl
      | noOption reads _ => exact nomatch misfits.symm.trans reads
  | noOption reads lacks =>
      cases ends' with
      | stored reads' accepts =>
          obtain rfl := Option.some.inj (reads.symm.trans reads')
          exact absurd accepts lacks.not_accepts
      | unfit misfits => exact nomatch misfits.symm.trans reads
      | noOption reads' lacks' =>
          obtain rfl := Option.some.inj (reads.symm.trans reads')
          rw [lacks.unique lacks']
  | unanswered =>
      cases ends'
      rfl

theorem Repeats.unique {question last last' : Question} {rebuffs rebuffs' : List Rebuff}
    {later later' : List Answer} {ending ending' : Report}
    (repeats : field.Repeats catalog s question rebuffs last)
    (ends : field.Ends catalog s last later ending)
    (repeats' : field.Repeats catalog s question rebuffs' last')
    (ends' : field.Ends catalog s last' later' ending')
    (same : rebuffs.map Rebuff.answer ++ later = rebuffs'.map Rebuff.answer ++ later') :
    rebuffs = rebuffs' ∧ ending = ending' := by
  induction repeats generalizing rebuffs' with
  | first =>
      cases repeats' with
      | first =>
          obtain rfl : later = later' := same
          exact ⟨rfl, ends.unique ends'⟩
      | again reads refuses _ =>
          subst same
          exact absurd refuses (ends.not_refused reads)
  | again reads refuses _ ih =>
      cases repeats' with
      | first =>
          subst same
          exact absurd refuses (ends'.not_refused reads)
      | again reads' refuses' further =>
          obtain ⟨rfl, tail⟩ := List.cons.inj same
          obtain rfl := Option.some.inj (reads.symm.trans reads')
          obtain rfl := refuses.unique refuses'
          obtain ⟨rfl, ended⟩ := ih ends further tail
          exact ⟨rfl, ended⟩

theorem Interview.unique {answers : List Answer} {report report' : Report}
    (interview : field.Interview catalog s answers report)
    (interview' : field.Interview catalog s answers report') : report = report' := by
  obtain ⟨rebuffs, last, later, ending, repeats, rfl, ends, rfl⟩ := interview
  obtain ⟨rebuffs', last', later', ending', repeats', same, ends', rfl⟩ := interview'
  obtain ⟨rfl, rfl⟩ := repeats.unique ends repeats' ends' same
  rfl

/-- The report of a field is that of an interview. -/
theorem interview_report (field : Field) (catalog : Catalog) (s : State) (answers : List Answer) :
    field.Interview catalog s answers (.ofOutcome s (field.ask catalog s answers)) := by
  obtain ⟨_, _, _, _, _, _, _, _, _, conducts, shown, opens, asks⟩ :=
    field.exists_conducts catalog s
  obtain ⟨rebuffs, last, later, ending, repeats, split, ends, reported⟩ :=
    conducts.report shown answers
  rw [opens] at repeats reported
  refine ⟨rebuffs, last, later, ending, repeats, split, ends, ?_⟩
  rw [asks]
  exact reported

/-- What an interview leaves behind: an accepted answer alone, or nothing if it fails. -/
theorem Interview.state {answers : List Answer} {report : Report}
    (interview : field.Interview catalog s answers report) :
    (report.result = .ok () ∧ ∃ value, field.kind.Accepts catalog s value report.state ∧
        field.kind.Stored catalog s report.state value) ∨
      (∃ failure, report.result = .error failure ∧ failure.OfForm) ∧ report.state = s := by
  obtain ⟨rebuffs, last, later, ending, _, _, ends, rfl⟩ := interview
  cases ends with
  | stored _ accepts => exact .inl ⟨rfl, _, accepts, accepts.stored⟩
  | unfit _ => exact .inr ⟨⟨_, rfl, .inr ⟨_, rfl⟩⟩, rfl⟩
  | noOption _ _ => exact .inr ⟨⟨_, rfl, .inr ⟨_, rfl⟩⟩, rfl⟩
  | unanswered => exact .inr ⟨⟨_, rfl, .inl rfl⟩, rfl⟩

/--
Asking for a field is an interview. It stores the accepted answer and changes nothing else, or it
fails and leaves the state as it was.
-/
theorem report_eq_iff_interview (field : Field) (catalog : Catalog) (s : State)
    (answers : List Answer) :
    (∀ report, .ofOutcome s (field.ask catalog s answers) = report ↔
        field.Interview catalog s answers report) ∧
      ∀ report, field.Interview catalog s answers report →
        (report.result = .ok () ∧ ∃ value, field.kind.Accepts catalog s value report.state ∧
            field.kind.Stored catalog s report.state value) ∨
          (∃ failure, report.result = .error failure ∧ failure.OfForm) ∧ report.state = s := by
  refine ⟨fun report => ⟨?_, ?_⟩, fun report interview => interview.state⟩
  · rintro rfl
    exact field.interview_report catalog s answers
  · intro interview
    exact (field.interview_report catalog s answers).unique interview

/-- A name is refused, refused again as it stands, and another one is accepted. -/
theorem interview_of_names :
    let field := (Field.input "Orchestrator Name" TextPlace.orchName).checkedBy Rule.orchName
    let start : State := .start .initial .initial
    let answers : List Answer := [.text "Demo", .accept, .text "demo", .accept]
    ∃ report, field.Interview .empty start answers report ∧ report.remaining.length = 1 ∧
      report.rejections.map Prod.fst = ["Orchestrator Name", "Orchestrator Name"] ∧
      TextPlace.orchName.slot.OnlyChange "demo" start report.state := by
  intro field start answers
  obtain ⟨report_iff, ends⟩ := report_eq_iff_interview field .empty start answers
  have interview := (report_iff _).1 rfl
  refine ⟨_, interview, by decide +kernel, by decide +kernel, ?_⟩
  rcases ends _ interview with ⟨_, value, accepts, stored⟩ | ⟨⟨failure, fails, _⟩, _⟩
  · cases value with
    | text content =>
        have only : TextPlace.orchName.slot.OnlyChange content start _ := stored
        obtain rfl : "demo" = content := only.stored
        exact only
    | _ => exact stored.elim
  · exact nomatch fails

end Field

end InstallerSetup.Form
