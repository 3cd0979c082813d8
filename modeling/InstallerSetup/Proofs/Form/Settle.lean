import InstallerSetup.Form.Run
import InstallerSetup.Proofs.Form.Edit

/-!
# Settling a field

A field is settled by a list of answers of which the last is accepted and all others are refused
(`Field.Settles`). Asking for a field either finds such a list at the beginning of the answers and
makes one change, or fails in one of the two ways in which a form can fail. The change is an edit if
the field is bound to a place.
-/

namespace InstallerSetup

def Failure.OfForm (failure : Failure) : Prop :=
  failure = .aborted ∨ ∃ reason, failure = .terminal reason

namespace Form

section

variable {α β : Type}

/-- The answers to the questions of one field, each starting from the one refused before it. -/
inductive Settles (fit? : α → Answer → Option α) (judge : α → Judgement β) :
    α → List Answer → β → Prop where
  | accepted {current value : α} {answer : Answer} {stored : β}
      (fits : fit? current answer = some value) (accepts : judge value = .accepted stored) :
      Settles fit? judge current [answer] stored
  | refused {current value : α} {answer : Answer} {given : List Answer} {stored : β}
      {refusal : Refusal} (fits : fit? current answer = some value)
      (refuses : judge value = .refused refusal) (later : Settles fit? judge value given stored) :
      Settles fit? judge current (answer :: given) stored

variable {fit? : α → Answer → Option α} {judge : α → Judgement β}

/-- What a field is settled with has been accepted. -/
theorem Settles.accepts {current : α} {given : List Answer} {stored : β}
    (settles : Settles fit? judge current given stored) :
    ∃ value, judge value = .accepted stored := by
  induction settles with
  | accepted _ accepts => exact ⟨_, accepts⟩
  | refused _ _ _ ih => exact ih

theorem Settles.given_ne_nil {current : α} {given : List Answer} {stored : β}
    (settles : Settles fit? judge current given stored) : given ≠ [] := by
  cases settles <;> exact List.cons_ne_nil _ _

/-- Asking stops behind the answers that settle a field. -/
theorem ask_of_settles (info : Field.Info) (question : α → Question) {current : α}
    {given : List Answer} {stored : β} (settles : Settles fit? judge current given stored)
    (rest : List Answer) :
    ∃ moments, ask info question fit? judge current (given ++ rest) =
      ⟨moments, rest, .ok stored⟩ := by
  induction settles with
  | @accepted current value answer stored fits accepts =>
      refine ⟨[.asked info (question current)], ?_⟩
      rw [List.singleton_append, ask]
      simp only [fits, accepts]
  | @refused current value answer given stored refusal fits refuses later ih =>
      obtain ⟨moments, asked⟩ := ih
      refine ⟨[.asked info (question current),
        .refused info (.invalidField info.title refusal.message)] ++ moments, ?_⟩
      rw [List.cons_append, ask]
      simp only [fits, refuses, asked]
      rfl

/-- Unless some first answers settle a field, asking for it fails. -/
theorem settles_or_fails (info : Field.Info) (question : α → Question)
    (fit? : α → Answer → Option α) (judge : α → Judgement β) (current : α)
    (answers : List Answer) :
    (∃ given rest stored, answers = given ++ rest ∧ Settles fit? judge current given stored) ∨
      ∃ failure, (ask info question fit? judge current answers).result = .error failure ∧
        failure.OfForm := by
  induction answers generalizing current with
  | nil => exact .inr ⟨.aborted, rfl, .inl rfl⟩
  | cons answer rest ih =>
      rw [ask]
      cases fits : fit? current answer with
      | none => exact .inr ⟨unfit info answer, rfl, .inr ⟨_, rfl⟩⟩
      | some value =>
          cases verdict : judge value with
          | accepted stored =>
              exact .inl ⟨[answer], rest, stored, rfl, .accepted fits verdict⟩
          | noOption index =>
              refine .inr ⟨noOption info index, ?_, .inr ⟨_, rfl⟩⟩
              simp only [verdict]
          | refused refusal =>
              rcases ih value with ⟨given, later, stored, rfl, settles⟩ | ⟨failure, fails, kind⟩
              · exact .inl ⟨answer :: given, later, stored, rfl, .refused fits verdict settles⟩
              · refine .inr ⟨failure, ?_, kind⟩
                simp only [verdict, Outcome.after, fails]

end

/-! ## Judgements -/

theorem judgeBy_eq_accepted {α : Type} {rule : α → Except Refusal Unit} {current stored : α}
    (judged : judgeBy rule current = .accepted stored) :
    rule current = .ok () ∧ current = stored := by
  unfold judgeBy at judged
  split at judged
  · next passes =>
      cases judged
      exact ⟨passes, rfl⟩
  · cases judged

theorem judgeBy_eq_refused {α : Type} {rule : α → Except Refusal Unit} {current : α}
    {refusal : Refusal} (judged : judgeBy rule current = .refused refusal) :
    rule current = .error refusal := by
  unfold judgeBy at judged
  split at judged
  · cases judged
  · next fails =>
      cases judged
      exact fails

theorem judgeBy_ne_noOption {α : Type} {rule : α → Except Refusal Unit} {current : α}
    {index : Nat} : judgeBy rule current ≠ .noOption index := by
  unfold judgeBy
  split
  · nofun
  · nofun

/-! ## Positions of options -/

theorem mem_of_pick {α : Type} {options picked : List α} {indices : List Nat}
    (done : pick options indices = .ok picked) : ∀ option ∈ picked, option ∈ options := by
  induction indices generalizing picked with
  | nil =>
      cases done
      exact fun option impossible => nomatch impossible
  | cons index rest ih =>
      unfold pick at done
      split at done
      · cases done
      · next option found =>
          split at done
          · cases done
          · next others later =>
              cases done
              intro other member
              rcases List.mem_cons.1 member with rfl | further
              · exact List.mem_of_getElem? found
              · exact ih later other further

theorem mem_of_judgePicks {items : List Item} {rule : SetRule} {indices : List Nat}
    {ids : List String} (accepts : judgePicks items rule indices = .accepted ids) :
    ∀ id ∈ ids, ∃ item ∈ items, item.id = id := by
  unfold judgePicks judgeBy at accepts
  split at accepts
  · cases accepts
  · next picked found =>
      split at accepts
      · cases accepts
        intro id member
        obtain ⟨item, within, same⟩ := List.mem_map.1 member
        exact ⟨item, mem_of_pick found item within, same⟩
      · cases accepts

theorem mem_of_judgeChoice {choices : List Choice} {index : Nat} {setting : Setting}
    (accepts : judgeChoice choices index = .accepted setting) :
    ∃ choice ∈ choices, choice.setting = setting := by
  unfold judgeChoice at accepts
  split at accepts
  · cases accepts
  · next choice found =>
      cases accepts
      exact ⟨choice, List.mem_of_getElem? found, rfl⟩

/-! ## Fields -/

section

variable {ε : Type} [Change ε]

/-- The answers given to a field, and the change by which the last of them is stored. -/
def Field.Settles (field : Field) (catalog : Catalog) (s : State) (given : List Answer)
    (change : ε) : Prop :=
  match field.kind with
  | .input slot rule _ | .text slot rule =>
      ∃ value, Form.Settles Answer.text? (judgeBy rule) (slot.get s) given value ∧
        Change.apply change = fun s => slot.set s value
  | .confirm slot _ _ =>
      ∃ value, Form.Settles Answer.flag? .accepted (slot.get s) given value ∧
        Change.apply change = fun s => slot.set s value
  | .select choices =>
      ∃ setting, Form.Settles Answer.index? (judgeChoice (choices s catalog))
          (startIndex (choices s catalog)) given setting ∧
        Change.apply change = setting.store
  | .multiSelect items slot rule =>
      ∃ ids, Form.Settles Answer.indices? (judgePicks (items s catalog) rule)
          (selectedIndices (items s catalog)) given ids ∧
        Change.apply change = fun s => slot.set s ids

namespace Field

variable {field : Field} {catalog : Catalog} {s : State} {given answers : List Answer} {change : ε}

/-- How a field is asked for, whatever its kind. -/
theorem ask_eq (field : Field) (catalog : Catalog) (s : State) :
    ∃ (α β : Type) (question : α → Question) (fit? : α → Answer → Option α)
      (judge : α → Judgement β) (current : α) (store : β → State → State),
      (∀ answers, field.ask catalog s answers =
        (Form.ask field.info question fit? judge current answers).map
          fun value => store value s) ∧
      ∀ {ε : Type} [Change ε] (given : List Answer) (change : ε),
        field.Settles catalog s given change ↔
          ∃ value, Form.Settles fit? judge current given value ∧
            Change.apply change = store value := by
  obtain ⟨info, kind⟩ := field
  cases kind with
  | input slot rule masked =>
      exact ⟨_, _, _, _, _, _, fun value s => slot.set s value, fun _ => rfl, fun _ _ => Iff.rfl⟩
  | text slot rule =>
      exact ⟨_, _, _, _, _, _, fun value s => slot.set s value, fun _ => rfl, fun _ _ => Iff.rfl⟩
  | confirm slot yes no =>
      exact ⟨_, _, _, _, _, _, fun value s => slot.set s value, fun _ => rfl, fun _ _ => Iff.rfl⟩
  | select choices =>
      exact ⟨_, _, _, _, _, _, Setting.store, fun _ => rfl, fun _ _ => Iff.rfl⟩
  | multiSelect items slot rule =>
      exact ⟨_, _, _, _, _, _, fun ids s => slot.set s ids, fun _ => rfl, fun _ _ => Iff.rfl⟩

/-- A field that is settled makes its change and leaves the answers behind those given to it. -/
theorem ask_of_settles (settles : field.Settles catalog s given change) (rest : List Answer) :
    ∃ moments,
      field.ask catalog s (given ++ rest) = ⟨moments, rest, .ok (Change.apply change s)⟩ := by
  obtain ⟨_, _, question, _, _, _, store, asks, settles_iff⟩ := field.ask_eq catalog s
  obtain ⟨value, settled, change_eq⟩ := (settles_iff given change).1 settles
  obtain ⟨moments, asked⟩ := Form.ask_of_settles field.info question settled rest
  refine ⟨moments, ?_⟩
  rw [asks, asked, change_eq]
  rfl

theorem Settles.given_ne_nil (settles : field.Settles catalog s given change) : given ≠ [] := by
  obtain ⟨_, _, _, _, _, _, _, _, settles_iff⟩ := field.ask_eq catalog s
  obtain ⟨value, settled, _⟩ := (settles_iff given change).1 settles
  exact Form.Settles.given_ne_nil settled

theorem settles_or_fails (field : Field) (catalog : Catalog) (s : State) (answers : List Answer) :
    (∃ given rest, ∃ change : State → State,
        answers = given ++ rest ∧ field.Settles catalog s given change) ∨
      ∃ failure, (field.ask catalog s answers).result = .error failure ∧ failure.OfForm := by
  obtain ⟨_, _, question, fit?, judge, current, store, asks, settles_iff⟩ := field.ask_eq catalog s
  rcases Form.settles_or_fails field.info question fit? judge current answers with
    ⟨given, rest, value, split, settles⟩ | ⟨failure, fails, kind⟩
  · exact .inl ⟨given, rest, store value, split, (settles_iff _ _).2 ⟨value, settles, rfl⟩⟩
  · refine .inr ⟨failure, ?_, kind⟩
    rw [asks, Outcome.map, fails]
    rfl

/-- A field that takes one of several options is settled with one of them. -/
theorem Settles.of_select {choices : State → Catalog → List Choice}
    (kind : field.kind = .select choices) (settles : field.Settles catalog s given change) :
    ∃ choice ∈ choices s catalog, Change.apply change = choice.setting.store := by
  unfold Field.Settles at settles
  rw [kind] at settles
  obtain ⟨setting, settled, change_eq⟩ := settles
  obtain ⟨index, accepts⟩ := settled.accepts
  obtain ⟨choice, member, rfl⟩ := mem_of_judgeChoice accepts
  exact ⟨choice, member, change_eq⟩

/-- A field that takes any of several options is settled with identifiers of them. -/
theorem Settles.of_multiSelect {items : State → Catalog → List Item} {slot : ListSlot}
    {rule : SetRule} (kind : field.kind = .multiSelect items slot rule)
    (settles : field.Settles catalog s given change) :
    ∃ ids, (Change.apply change = fun s => slot.set s ids) ∧
      ∀ id ∈ ids, ∃ item ∈ items s catalog, item.id = id := by
  unfold Field.Settles at settles
  rw [kind] at settles
  obtain ⟨ids, settled, change_eq⟩ := settles
  obtain ⟨indices, accepts⟩ := settled.accepts
  exact ⟨ids, change_eq, mem_of_judgePicks accepts⟩

end Field

end

/-! ## Fields that are bound to places -/

namespace Field

variable {field : Field} {catalog : Catalog} {s : State} {given : List Answer} {place : Place}

/-- The place that a field is bound to: all options of a choice lead there. -/
def IsBoundTo (field : Field) (place : Place) : Prop :=
  match field.kind with
  | .input slot _ _ | .text slot _ => ∃ name : TextPlace, slot = name ∧ place = .text name
  | .confirm slot _ _ => ∃ name : FlagPlace, slot = name ∧ place = .flag name
  | .select choices => ∀ s catalog, ∀ choice ∈ choices s catalog,
      ∃ edit : Edit, edit.place = place ∧ edit.apply = choice.setting.store
  | .multiSelect _ slot _ => ∃ name : ListPlace, slot = name ∧ place = .list name

/-- What a field that is bound to a place is settled with is an edit of this place. -/
theorem exists_edit {change : State → State} (bound : field.IsBoundTo place)
    (settles : field.Settles catalog s given change) :
    ∃ edit : Edit, edit.place = place ∧ edit.apply = change := by
  obtain ⟨info, kind⟩ := field
  cases kind with
  | input slot rule _ | text slot rule =>
      obtain ⟨name, rfl, rfl⟩ := bound
      obtain ⟨value, _, change_eq⟩ := settles
      exact ⟨.text name value, rfl, change_eq.symm⟩
  | confirm slot yes no =>
      obtain ⟨name, rfl, rfl⟩ := bound
      obtain ⟨value, _, change_eq⟩ := settles
      exact ⟨.flag name value, rfl, change_eq.symm⟩
  | select choices =>
      obtain ⟨choice, member, change_eq⟩ := Settles.of_select rfl settles
      obtain ⟨edit, here, same⟩ := bound s catalog choice member
      exact ⟨edit, here, same.trans change_eq.symm⟩
  | multiSelect items slot rule =>
      obtain ⟨name, rfl, rfl⟩ := bound
      obtain ⟨ids, _, change_eq⟩ := settles
      exact ⟨.list name ids, rfl, change_eq.symm⟩

/-- The edit of a field goes to the place that the field is bound to. -/
theorem place_of_settles {edit : Edit} (bound : field.IsBoundTo place)
    (settles : field.Settles catalog s given edit) : edit.place = place := by
  have change_settles : field.Settles catalog s given edit.apply := settles
  obtain ⟨other, here, same⟩ := exists_edit bound change_settles
  rw [← here, Edit.apply_injective same]

end Field

end Form

end InstallerSetup
