import InstallerSetup.Proofs.Form.Asked
import InstallerSetup.Proofs.Form.Installer
import Mathlib.Data.List.Nodup

/-!
# What the rules say at the end of the form

At the end of the installer form a text obeys the rule of its field if it was asked for, and is the
one that the form began with if it was not (`Installer.obeys_iff`). A text without a rule is the one
that the only answer to its field gives (`Installer.answered_of_asked`). Which fields have been
asked for by then depends on the infrastructure and on the expert mode
(`Installer.edited_of_shown`).
-/

namespace InstallerSetup.Form

/-- A field that is bound to the place of a text has the rule that a table gives for this place. -/
def Field.IsRuledBy (rules : TextPlace → Rule) (field : Field) (place : Place) : Prop :=
  match field.kind, place with
  | .input slot rule _, .text name | .text slot rule, .text name => slot = name ∧ rule = rules name
  | _, .text _ => False
  | _, _ => True

/-- A field is settled with a text by answers that the rule of the text judges. -/
theorem Field.Settles.of_text {field : Field} {catalog : Catalog} {s : State} {given : List Answer}
    {rules : TextPlace → Rule} {place : TextPlace} (ruled : field.IsRuledBy rules (.text place))
    {value : String} (settles : field.Settles catalog s given (Edit.text place value)) :
    Form.Settles Answer.text? (judgeBy (rules place)) (place.get s) given value := by
  obtain ⟨info, kind⟩ := field
  cases kind with
  | input slot rule _ | text slot rule =>
      obtain ⟨rfl, rfl⟩ := ruled
      obtain ⟨stored, settled, same⟩ := settles
      have edits : Edit.text place value = .text place stored := Edit.apply_injective same
      rw [(Edit.text.inj edits).2]
      exact settled
  | _ => exact ruled.elim

/-- A text that is settled obeys its rule. -/
theorem Settles.obeys {rule : Rule} {current value : String} {given : List Answer}
    (settled : Settles Answer.text? (judgeBy rule) current given value) : rule value = .ok () := by
  obtain ⟨_, accepts⟩ := settled.accepts
  obtain ⟨passes, rfl⟩ := judgeBy_eq_accepted accepts
  exact passes

/-- A text without a rule is settled by one answer. -/
theorem Settles.single {current value : String} {given : List Answer}
    (settled : Settles Answer.text? (judgeBy Rule.any) current given value) :
    ∃ answer, given = [answer] ∧ answer.text? current = some value := by
  cases settled with
  | accepted fits accepts =>
      cases accepts
      exact ⟨_, rfl, fits⟩
  | refused fits refuses later => cases refuses

namespace Installer

def rule : TextPlace → Rule
  | .orchName => Rule.orchName
  | .parentDomain => Rule.parentDomain
  | .adminEmail => Rule.adminEmail
  | .awsRegion => Rule.awsRegion
  | .awsVpcId => Rule.awsVpcId
  | .awsEksDnsIp => Rule.eksDnsIp
  | .argoIp | .traefikIp | .nginxIp => Rule.ip
  | .tlsCert => Rule.tlsCert
  | .tlsKey => Rule.tlsKey
  | .tlsCa => Rule.tlsCa
  | .smtpPort => Rule.smtpPort
  | _ => Rule.any

theorem installer_ruled : List.Forall₂ (Field.IsRuledBy rule) (fields installer) places := by
  have groups : ∀ entry ∈ table, List.Forall₂ (Field.IsRuledBy rule) entry.1.fields entry.2 := by
    simp only [table, List.forall_mem_cons]
    refine ⟨?_, ?_, ?_, ?_, ?_, ?_, ?_, ?_, ?_, ?_, ?_, ?_, ?_, ?_, ?_, ?_, ?_, ?_, ?_,
      List.forall_mem_nil _⟩
    all_goals
      repeat' first | exact List.Forall₂.nil | refine List.Forall₂.cons ?_ ?_
    all_goals
      first | exact ⟨rfl, rfl⟩ | trivial
  rw [← groups_table]
  exact forall₂_fields groups

/-- The titles of the fields with the places that they are bound to. -/
def labels : List (String × Place) :=
  ((fields installer).map fun field => field.info.title).zip places

theorem titles_nodup : (labels.map Prod.fst).Nodup := by decide +kernel

theorem labelled_places_nodup : (labels.map Prod.snd).Nodup := by decide +kernel

section

variable {catalog : Catalog} {s t : State} {answers rest : List Answer}
  {trace : List (Settlement Edit)}
  {stage : Stage}

theorem mem_labels_of_mem (reached : Reaches catalog (.start installer s answers) trace stage)
    {step : Settlement Edit} (member : step ∈ trace) :
    (step.field.info.title, step.edit.place) ∈ labels := by
  have bound := (reached.places_sublist installer_bound).subset
    (List.mem_map.2 ⟨step, member, rfl⟩)
  rw [labels, List.zip_map_left]
  exact List.mem_map.2 ⟨_, bound, rfl⟩

theorem ruled_of_mem (reached : Reaches catalog (.start installer s answers) trace stage)
    {step : Settlement Edit} (member : step ∈ trace) :
    step.field.IsRuledBy rule step.edit.place := by
  have bound := (reached.places_sublist installer_bound).subset
    (List.mem_map.2 ⟨step, member, rfl⟩)
  exact List.forall₂_zip installer_ruled bound

/-- A field of the form is asked for exactly if an edit of its place is made. -/
theorem mem_asked_iff_of_label
    (reached : Reaches catalog (.start installer s answers) trace ⟨[], [], t, rest⟩)
    {title : String} {place : Place} (label : (title, place) ∈ labels) :
    title ∈ (run catalog installer s answers).asked ↔ ∃ step ∈ trace, step.edit.place = place := by
  rw [reached.mem_asked_of_final]
  refine exists_congr fun step => and_congr_right fun member => ?_
  have own := mem_labels_of_mem reached member
  constructor
  · intro same
    exact congrArg Prod.snd (List.inj_on_of_nodup_map titles_nodup own label same)
  · intro same
    exact congrArg Prod.fst (List.inj_on_of_nodup_map labelled_places_nodup own label same)

/-- A text that has been edited obeys the rule of its field. -/
theorem obeys_of_edited (reached : Reaches catalog (.start installer s answers) trace stage)
    {slot : TextPlace} (edited : ∃ step ∈ trace, step.edit.place = .text slot) :
    rule slot (slot.get stage.state) = .ok () := by
  obtain ⟨step, member, place⟩ := edited
  obtain ⟨before, settles⟩ := reached.settles_of_mem member
  have content := content_of_mem reached member
  have ruled := ruled_of_mem reached member
  rw [place] at content ruled
  rw [← content] at settles
  exact (settles.of_text ruled).obeys

/--
At the end a text obeys the rule of its field exactly if the field was asked for or the text obeyed
the rule before.
-/
theorem obeys_iff
    (reached : Reaches catalog (.start installer s answers) trace ⟨[], [], t, rest⟩)
    (title : String) (slot : TextPlace) (label : (title, .text slot) ∈ labels) :
    rule slot (slot.get t) = .ok () ↔
      (title ∉ (run catalog installer s answers).asked → rule slot (slot.get s) = .ok ()) := by
  by_cases asked : title ∈ (run catalog installer s answers).asked
  · have obeys : rule slot (slot.get t) = .ok () :=
      obeys_of_edited reached ((mem_asked_iff_of_label reached label).1 asked)
    exact iff_of_true obeys fun unasked => absurd asked unasked
  · have elsewhere : ∀ step ∈ trace, step.edit.place ≠ .text slot := fun step member place =>
      asked ((mem_asked_iff_of_label reached label).2 ⟨step, member, place⟩)
    have same : slot.get t = slot.get s :=
      (Edit.text.inj (reached.content_of_notMem elsewhere)).2
    rw [same]
    exact ⟨fun obeys _ => obeys, fun obeys => obeys asked⟩

/-- Until a field is settled its place holds what the form began with. -/
theorem content_before (reached : Reaches catalog (.start installer s answers) trace stage)
    {earlier later : List (Settlement Edit)} {step : Settlement Edit}
    (split : trace = earlier ++ step :: later) :
    step.edit.place.content (Change.applyAll s (earlier.map Settlement.edit)) =
      step.edit.place.content s := by
  have distinct := (trace_places_sublist reached).nodup places_nodup
  rw [split, List.map_append, List.map_cons] at distinct
  refine Edit.content_applyAll_of_notMem (fun member => ?_) s
  rw [List.map_map] at member
  exact List.disjoint_of_nodup_append distinct member List.mem_cons_self

/-- A text that has no rule and was asked for is the one that the only answer to its field gives. -/
theorem answered_of_asked
    (reached : Reaches catalog (.start installer s answers) trace ⟨[], [], t, rest⟩)
    (title : String) (slot : TextPlace) (label : (title, .text slot) ∈ labels)
    (free : rule slot = Rule.any) (asked : title ∈ (run catalog installer s answers).asked) :
    ∃ step ∈ trace, step.field.info.title = title ∧
      ∃ answer, step.given = [answer] ∧ answer.text? (slot.get s) = some (slot.get t) := by
  obtain ⟨step, member, titled⟩ := reached.mem_asked_of_final.1 asked
  have place : step.edit.place = .text slot := congrArg Prod.snd
    (List.inj_on_of_nodup_map titles_nodup (mem_labels_of_mem reached member) label titled)
  have stored := content_of_mem reached member
  obtain ⟨earlier, later, split⟩ := List.append_of_mem member
  have before := content_before reached split
  have settles := reached.settles_at split
  have ruled := ruled_of_mem reached member
  rw [place] at stored before ruled
  rw [← stored] at settles
  have settled := settles.of_text ruled
  rw [free] at settled
  obtain ⟨answer, single, gives⟩ := settled.single
  have current := (Edit.text.inj before).2
  exact ⟨step, member, titled, answer, single, current ▸ gives⟩

end

/-! ## Fields that have been asked for by the end -/

/-- All places of a group are those of its fields. -/
theorem bound_of_mem {entry : Group × List Place} (member : entry ∈ table) {place : Place}
    (listed : place ∈ entry.2) : ∃ field ∈ entry.1.fields, field.IsBoundTo place := by
  have paired := table_bound entry member
  obtain ⟨i, inside, rfl⟩ := List.mem_iff_getElem.1 listed
  have inside' : i < entry.1.fields.length := paired.length_eq.symm ▸ inside
  exact ⟨entry.1.fields[i], List.getElem_mem _, paired.get inside' inside⟩

section

variable {catalog : Catalog} {s t : State} {answers rest : List Answer}
  {trace : List (Settlement Edit)}

/-- A place has been edited if its field has been settled. -/
theorem edited_of_settled {first stage : Stage} (reached : Reaches catalog first trace stage)
    {entry : Group × List Place} (member : entry ∈ table)
    (settled : ∀ field ∈ entry.1.fields, ∃ step ∈ trace, step.field = field) {place : Place}
    (listed : place ∈ entry.2) : ∃ step ∈ trace, step.edit.place = place := by
  obtain ⟨field, within, bound⟩ := bound_of_mem member listed
  obtain ⟨step, found, rfl⟩ := settled field within
  obtain ⟨before, settles⟩ := reached.settles_of_mem found
  exact ⟨step, found, Field.place_of_settles bound settles⟩

theorem edited_of_always
    (reached : Reaches catalog (.start installer s answers) trace ⟨[], [], t, rest⟩)
    {entry : Group × List Place} (member : entry ∈ table)
    (always : ∀ u, entry.1.isVisible u = true) {place : Place} (listed : place ∈ entry.2) :
    ∃ step ∈ trace, step.edit.place = place := by
  refine edited_of_settled reached member (fun field within => ?_) listed
  have inForm : entry.1 ∈ installer := groups_table ▸ List.mem_map.2 ⟨entry, member, rfl⟩
  exact reached.settled_of_final inForm (fun _ middle _ => always middle.state) within

/-- Behind the choice of the infrastructure neither it nor the expert mode changes. -/
theorem back_keeps {stage : Stage}
    (reached : Reaches catalog (.start (back.map Prod.fst) s answers) trace stage) :
    stage.state.config.provider = s.config.provider ∧
      stage.state.flags.expertMode = s.flags.expertMode := by
  have kept := reached.allowed_of_table back_bound
    (fun place => place ≠ .provider ∧ place ≠ .flag .expertMode) (by decide)
  constructor
  · have same := reached.content_of_notMem fun step member => (kept step member).1
    exact Edit.provider.inj same
  · have same := reached.content_of_notMem fun step member => (kept step member).2
    exact (Edit.flag.inj same).2

/--
The fields of a group behind the choice of the infrastructure have been settled by the end if the
choice made and the expert mode show the group.
-/
theorem edited_of_shown
    (reached : Reaches catalog (.start installer s answers) trace ⟨[], [], t, rest⟩)
    {entry : Group × List Place} (member : entry ∈ back)
    (visible : ∀ u : State, u.config.provider = t.config.provider →
      u.flags.expertMode = s.flags.expertMode → entry.1.isVisible u = true)
    {place : Place} (listed : place ∈ entry.2) : ∃ step ∈ trace, step.edit.place = place := by
  have expert : t.flags.expertMode = s.flags.expertMode := (faithful reached).expertMode
  refine edited_of_settled reached (List.mem_of_mem_drop member) (fun field within => ?_) listed
  rw [installer_eq_append] at reached
  rcases reached.append with ⟨groups, ended, _⟩ | ⟨earlier, later, u, left, rfl, _, inBack⟩
  · have none := (List.append_eq_nil_iff.1 ended.symm).2
    cases none
  · have last := back_keeps inBack
    have shown : ∀ (steps : List (Settlement Edit)) (middle : Stage),
        Reaches catalog (.start (back.map Prod.fst) u left) steps middle →
          entry.1.isVisible middle.state = true := by
      intro steps middle inMiddle
      have here := back_keeps inMiddle
      refine visible _ (here.1.trans last.1.symm) (here.2.trans ?_)
      exact last.2.symm.trans expert
    obtain ⟨step, settled, same⟩ :=
      inBack.settled_of_final (List.mem_map.2 ⟨entry, member, rfl⟩) shown within
    exact ⟨step, List.mem_append_right _ settled, same⟩

end

end Installer

end InstallerSetup.Form
