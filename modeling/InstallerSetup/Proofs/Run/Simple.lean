import InstallerSetup.Proofs.Catalog
import InstallerSetup.Proofs.Form.Interview
import InstallerSetup.Proofs.Form.Shown
import InstallerSetup.Proofs.Paired
import InstallerSetup.Proofs.Run.Ending
import InstallerSetup.Proofs.Run.Written
import InstallerSetup.Proofs.Text.Utf8

/-!
# The simple mode

A run in the simple mode has asked for packages. The positions that were accepted are taken in the
list of packages by name, the rule of the mode holds of the packages that lie there, and the
document has exactly their applications. So a run can be in this mode only if the catalog has the
platform.
-/

namespace InstallerSetup

/-- The rule of the simple mode wants the platform, and something to show with the interface. -/
theorem SetRule.simpleMode_eq_ok_iff {ids : List String} :
    SetRule.simpleMode ids = .ok () ↔
      "fps" ∈ ids ∧ ("ui" ∈ ids → "eim" ∈ ids ∨ "co" ∈ ids ∨ "ao" ∈ ids) := by
  unfold SetRule.simpleMode
  by_cases platform : "fps" ∈ ids
  · by_cases shown : "ui" ∈ ids
    · by_cases eim : "eim" ∈ ids
      · simp [platform, shown, eim]
      · by_cases co : "co" ∈ ids
        · simp [platform, shown, eim, co]
        · simp [platform, shown, eim, co]
    · simp [platform, shown]
  · simp [platform]

namespace Form

/-! ## The last answer to a field -/

namespace Field

variable {field : Field} {catalog : Catalog} {s : State} {given : List Answer} {edit : Edit}

/-- The last one of some answers to a field comes to a value, and those before it are refused. -/
def ComesTo (field : Field) (catalog : Catalog) (s : State) (given : List Answer)
    (value : Value) : Prop :=
  ∃ rebuffs last answer, field.Repeats catalog s (field.opening catalog s) rebuffs last ∧
    given = rebuffs.map Rebuff.answer ++ [answer] ∧ last.reading? answer = some value

/-- A field that takes any of several options is settled with what lies at the positions. -/
theorem Settles.comesTo_of_multiSelect {items : State → Catalog → List Item} {slot : ListSlot}
    {rule : SetRule} (kind : field.kind = .multiSelect items slot rule)
    (settles : field.Settles catalog s given edit) :
    ∃ positions ids, (edit.apply = fun s => slot.set s ids) ∧
      field.ComesTo catalog s given (.options positions) ∧
        AtPositions (items s catalog) positions ids ∧ rule ids = .ok () := by
  obtain ⟨ids, change_eq, _⟩ := settles.of_multiSelect kind
  obtain ⟨moments, asked⟩ := ask_of_settles settles []
  obtain ⟨rebuffs, last, later, ending, repeats, split, ends, reported⟩ :=
    field.interview_report catalog s given
  rw [List.append_nil] at asked
  rw [asked] at reported
  have left : [] = ending.remaining := congrArg Report.remaining reported
  have stored : slot.set s ids = ending.state :=
    (congrFun change_eq s).symm.trans (congrArg Report.state reported)
  have done : .ok () = ending.result := congrArg Report.result reported
  cases ends with
  | @stored answer rest value other reads accepts =>
      obtain rfl : [] = rest := left
      rw [kind] at accepts
      cases accepts with
      | @multiSelect _ _ _ positions ids' offered passes =>
          have same : ids = ids' := by
            rw [← slot.get_set s ids, stored]
            exact slot.get_set s ids'
          subst same
          exact ⟨positions, ids, change_eq, ⟨rebuffs, last, answer, repeats, split, reads⟩, offered,
            passes⟩
  | unfit _ => cases done
  | noOption _ _ => cases done
  | unanswered => cases done

end Field

namespace Installer

variable {catalog : Catalog} {s t : State} {answers rest : List Answer}
  {trace : List (Settlement Edit)}

/--
The packages at some positions of the list by name, which satisfy the rule of the simple mode.
-/
structure Picks (catalog : Catalog) (positions : List Nat) (ids : List String) : Prop where
  offered : List.Forall₂
    (fun position id => ∃ package, catalog.packagesByName[position]? = some (id, package))
    positions ids
  platform : "fps" ∈ ids
  shown : "ui" ∈ ids → "eim" ∈ ids ∨ "co" ∈ ids ∨ "ao" ∈ ids

theorem Picks.of_atPositions {positions : List Nat} {ids : List String}
    (offered : AtPositions (packageItems s catalog) positions ids)
    (passes : SetRule.simpleMode ids = .ok ()) : Picks catalog positions ids := by
  obtain ⟨platform, shown⟩ := SetRule.simpleMode_eq_ok_iff.1 passes
  refine ⟨List.Forall₂.imp ?_ offered, platform, shown⟩
  rintro position id ⟨item, found, rfl⟩
  unfold packageItems at found
  rw [List.getElem?_map, Option.map_eq_some_iff] at found
  obtain ⟨⟨id, package⟩, here, rfl⟩ := found
  exact ⟨package, here⟩

/-- The platform is a package of the catalog. -/
theorem Picks.isSome_platform {positions : List Nat} {ids : List String}
    (picks : Picks catalog positions ids) : (catalog.package? "fps").isSome = true := by
  obtain ⟨position, _, package, here⟩ := exists_partner_of_right picks.offered picks.platform
  exact Catalog.isSome_package?_of_mem_packagesByName (List.mem_of_getElem? here)

/-- In the simple mode packages have been picked. -/
theorem picks_of_simple
    (reached : Reaches catalog (.start installer s answers) trace ⟨[], [], t, rest⟩)
    (mode : t.scratch.mode = .simple) :
    ∃ step ∈ trace, step.field ∈ simple.fields ∧ ∃ before positions,
      step.field.ComesTo catalog before step.given (.options positions) ∧
        step.edit = .list .enabledSimple t.scratch.enabledSimple ∧
        Picks catalog positions t.scratch.enabledSimple := by
  have listed := List.mem_cons_self (a := simple.fields.head (List.cons_ne_nil _ _)) (l := [])
  have visible : simple.isVisible t = true := beq_iff_eq.2 mode
  obtain ⟨⟨field, given, edit⟩, settled, rfl⟩ :=
    settled_of_visible reached (by simp [installer]) visible listed
  obtain ⟨before, settles⟩ := reached.settles_of_mem settled
  obtain ⟨positions, ids, change_eq, comes, offered, passes⟩ := settles.comesTo_of_multiSelect rfl
  obtain rfl : edit = .list .enabledSimple ids := Edit.apply_injective change_eq
  have content := content_of_mem reached settled
  have chosen : t.scratch.enabledSimple = ids := (Edit.list.inj content).2
  rw [chosen]
  exact ⟨_, settled, listed, before, positions, comes, rfl, .of_atPositions offered passes⟩

end Installer

end Form

namespace Run

variable {σ : Type} [Storage σ] {o : Options} {store : σ} {sink : Sink}

/--
A run in the simple mode has picked the packages at the positions that its last answer came to, the
platform among them, and has written exactly their applications in increasing order. Without the
platform in the catalog no run ends in this mode.
-/
theorem simple_written_of_result {answers : List Form.Answer} {c : Config}
    (done : (run o store sink answers).result = .ok c) :
    ∃ loaded catalog report trace, Success o store sink answers c loaded catalog report trace ∧
      (report.state.scratch.mode = .simple →
        (catalog.package? "fps").isSome = true ∧
          ∃ step ∈ trace, step.field ∈ Form.Installer.simple.fields ∧ ∃ before positions ids,
            step.field.ComesTo catalog before step.given (.options positions) ∧
              step.edit = .list .enabledSimple ids ∧
              Form.Installer.Picks catalog positions ids ∧
              c.orch.enabled.Pairwise (fun a b => Text.encode a < Text.encode b) ∧
              ∀ id, id ∈ c.orch.enabled ↔ ∃ packageId ∈ ids, ∃ package,
                catalog.package? packageId = some package ∧ id ∈ package.apps.keys) ∧
      (catalog.package? "fps" = none → report.state.scratch.mode ≠ .simple) := by
  obtain ⟨loaded, catalog, report, trace, success⟩ := success_of_result_ok done
  refine ⟨loaded, catalog, report, trace, success, fun mode => ?_, fun absent mode => ?_⟩
  · obtain ⟨step, settled, listed, before, positions, comes, stored, picks⟩ :=
      Form.Installer.picks_of_simple success.reached mode
    have enabled : c.orch.enabled = catalog.expand report.state.scratch.enabledSimple := by
      rw [success.document, Form.State.enabled_complete, Form.State.chosenApps, mode]
    rw [enabled]
    refine ⟨picks.isSome_platform, step, settled, listed, before, positions, _, comes, stored, picks,
      ?_, fun id => Catalog.mem_expand_iff⟩
    exact (catalog.pairwise_expand _).imp Text.encode_lt_encode_iff.2
  · obtain ⟨_, _, _, _, _, _, _, picks⟩ := Form.Installer.picks_of_simple success.reached mode
    have platform := picks.isSome_platform
    rw [absent] at platform
    cases platform

/-! ### A run with two selections that are refused -/

def platformText : String :=
  "fps:\n  name: P\n  apps:\n    y:\n      name: Y\n    x:\n      name: X\n"

def platformStore : Storage.Memory :=
  Storage.Memory.empty.withFile "p.yaml" (Text.encode platformText)

/-- Nothing is picked, and that is taken over once more, before the platform is picked. -/
def pickingAnswers : List Form.Answer :=
  demoAnswers.take 13 ++ [.choose 0, .chooseMany [], .accept, .chooseMany [0]]

def pickedDocument : Config :=
  { demoDocument with orch := ⟨["x", "y"], Config.initialPassword, .empty⟩ }

theorem simple_written_of_picking :
    (run demoOptions platformStore .reliable pickingAnswers).result = .ok pickedDocument ∧
      ∃ catalog ids positions, (catalog.package? "fps").isSome = true ∧
        Form.Installer.Picks catalog positions ids ∧
        ∀ id, id ∈ ["x", "y"] ↔ ∃ packageId ∈ ids, ∃ package,
          catalog.package? packageId = some package ∧ id ∈ package.apps.keys := by
  have done : (run demoOptions platformStore .reliable pickingAnswers).result =
      .ok pickedDocument := Except.eq_ok_of_toOption (by decide +kernel)
  have simple : ((run demoOptions platformStore .reliable pickingAnswers).report.map
      fun report => report.state.scratch.mode) = some .simple := by decide +kernel
  obtain ⟨loaded, catalog, report, trace, success, written, _⟩ := simple_written_of_result done
  rw [success.report_eq] at simple
  obtain ⟨platform, _, _, _, _, positions, ids, _, _, picks, _, lists⟩ :=
    written (Option.some.inj simple)
  exact ⟨done, catalog, ids, positions, platform, picks, lists⟩

end Run

end InstallerSetup
