import InstallerSetup.Form.Slot
import InstallerSetup.Proofs.Config.RoundTrip

/-!
# Edits of the state

An accepted answer changes the state. What stands for such a change is a `Change`: the function
itself, or an `Edit`, which names the place that a value is stored at. `Place.content` is what is
found at a place, given as the edit that would store it again. An edit is found at its place, and
everything else stays: the other places and the parts of the state that no place covers. So an edit
is determined by the change that it makes (`Edit.apply_injective`).
-/

namespace InstallerSetup.Form

/-! ## Changes -/

/-- Values that stand for changes of the state. -/
class Change (ε : Type) where
  apply : ε → State → State

namespace Change

instance : Change (State → State) where
  apply change := change

variable {ε : Type} [Change ε]

def applyAll (s : State) (changes : List ε) : State :=
  changes.foldl (fun s change => apply change s) s

theorem applyAll_cons (s : State) (change : ε) (changes : List ε) :
    applyAll s (change :: changes) = applyAll (apply change s) changes := rfl

theorem applyAll_append (s : State) (first second : List ε) :
    applyAll s (first ++ second) = applyAll (applyAll s first) second :=
  List.foldl_append

end Change

/--
A state has a value at a slot and is otherwise as it was before: with the former value it is the
former state again.
-/
structure Slot.OnlyChange {α : Type} (slot : Slot α) (value : α) (s₀ s : State) : Prop where
  stored : slot.get s = value
  restored : slot.set s (slot.get s₀) = s₀

theorem Slot.onlyChange_set {α : Type} (slot : Slot α) (s : State) (value : α) :
    slot.OnlyChange value s (slot.set s value) where
  stored := slot.get_set s value
  restored := by rw [slot.set_set, slot.set_get]

/-! ## Edits and their places -/

/-- A value for one place of the state. -/
inductive Edit where
  | text (place : TextPlace) (value : String)
  | flag (place : FlagPlace) (value : Bool)
  | list (place : ListPlace) (value : List String)
  | provider (value : Option Config.Provider)
  | scale (value : Option Config.Scale)
  | mode (value : Mode)

inductive Place where
  | text (place : TextPlace)
  | flag (place : FlagPlace)
  | list (place : ListPlace)
  | provider
  | scale
  | mode
  deriving DecidableEq

namespace Edit

def place : Edit → Place
  | text place _ => .text place
  | flag place _ => .flag place
  | list place _ => .list place
  | provider _ => .provider
  | scale _ => .scale
  | mode _ => .mode

def apply : Edit → State → State
  | text place value => fun s => place.set s value
  | flag place value => fun s => place.set s value
  | list place value => fun s => place.set s value
  | provider value => (Setting.provider value).store
  | scale value => (Setting.scale value).store
  | mode value => (Setting.mode value).store

instance : Change Edit := ⟨apply⟩

end Edit

/-- What is found at a place, as the edit that stores it. -/
def Place.content (s : State) : Place → Edit
  | text place => .text place (place.get s)
  | flag place => .flag place (place.get s)
  | list place => .list place (place.get s)
  | provider => .provider s.config.provider
  | scale => .scale s.config.global.scale
  | mode => .mode s.scratch.mode

namespace Edit

/-- An edit is found at its place. -/
theorem content_apply (edit : Edit) (s : State) : edit.place.content (edit.apply s) = edit := by
  cases edit with
  | text place value => exact congrArg (text place) (place.slot.get_set s value)
  | flag place value => exact congrArg (flag place) (place.slot.get_set s value)
  | list place value => exact congrArg (list place) (place.slot.get_set s value)
  | _ => rfl

theorem content_set_text (slot : TextPlace) (s : State) (value : String) {place : Place}
    (different : .text slot ≠ place) : place.content (slot.set s value) = place.content s := by
  cases place with
  | text other =>
      have apart : slot ≠ other := fun same => different (congrArg Place.text same)
      cases slot <;> cases other <;> first | rfl | exact absurd rfl apart
  | flag other => cases slot <;> cases other <;> rfl
  | list other => cases slot <;> cases other <;> rfl
  | _ => cases slot <;> rfl

theorem content_set_flag (slot : FlagPlace) (s : State) (value : Bool) {place : Place}
    (different : .flag slot ≠ place) : place.content (slot.set s value) = place.content s := by
  cases place with
  | text other => cases slot <;> cases other <;> rfl
  | flag other =>
      have apart : slot ≠ other := fun same => different (congrArg Place.flag same)
      cases slot <;> cases other <;> first | rfl | exact absurd rfl apart
  | list other => cases slot <;> cases other <;> rfl
  | _ => cases slot <;> rfl

theorem content_set_list (slot : ListPlace) (s : State) (value : List String) {place : Place}
    (different : .list slot ≠ place) : place.content (slot.set s value) = place.content s := by
  cases place with
  | text other => cases slot <;> cases other <;> rfl
  | flag other => cases slot <;> cases other <;> rfl
  | list other =>
      have apart : slot ≠ other := fun same => different (congrArg Place.list same)
      cases slot <;> cases other <;> first | rfl | exact absurd rfl apart
  | _ => cases slot <;> rfl

/-- An edit leaves all other places as they are. -/
theorem content_apply_of_ne (edit : Edit) (s : State) {place : Place}
    (different : edit.place ≠ place) : place.content (edit.apply s) = place.content s := by
  cases edit with
  | text slot value => exact content_set_text slot s value different
  | flag slot value => exact content_set_flag slot s value different
  | list slot value => exact content_set_list slot s value different
  | provider value | scale value | mode value =>
      cases place with
      | text other => cases other <;> rfl
      | flag other => cases other <;> rfl
      | list other => cases other <;> rfl
      | _ => first | rfl | exact absurd rfl different

/-- Every place can hold another value. -/
theorem exists_other (edit : Edit) : ∃ other : Edit, other.place = edit.place ∧ other ≠ edit := by
  cases edit with
  | text slot value =>
      refine ⟨.text slot (value.push 'x'), rfl, fun same => ?_⟩
      have longer := congrArg String.length (text.inj same).2
      rw [String.length_push] at longer
      omega
  | flag slot value => exact ⟨.flag slot !value, rfl, by simp⟩
  | list slot value => exact ⟨.list slot ("" :: value), rfl, by simp⟩
  | provider value =>
      cases value with
      | none => exact ⟨.provider (some .aws), rfl, nofun⟩
      | some p => exact ⟨.provider none, rfl, nofun⟩
  | scale value =>
      cases value with
      | none => exact ⟨.scale (some .nodes10), rfl, nofun⟩
      | some scale => exact ⟨.scale none, rfl, nofun⟩
  | mode value =>
      cases value with
      | simple => exact ⟨.mode .skip, rfl, nofun⟩
      | _ => exact ⟨.mode .simple, rfl, nofun⟩

/-- Edits that make the same change are the same. -/
theorem apply_injective : Function.Injective apply := by
  intro edit edit' same
  by_cases place_eq : edit.place = edit'.place
  · have start : State := .start .initial .initial
    rw [← edit.content_apply start, same, place_eq, edit'.content_apply]
  · -- of two changes at different places the one is not seen where the other is
    obtain ⟨other, here, different⟩ := edit.exists_other
    have start : State := .start .initial .initial
    have kept := edit'.content_apply_of_ne (other.apply start) (Ne.symm place_eq)
    rw [← same, edit.content_apply, ← here, other.content_apply] at kept
    exact absurd kept.symm different

/-! ## Several edits -/

/-- A place that no edit goes to keeps its content. -/
theorem content_applyAll_of_notMem {edits : List Edit} {place : Place}
    (elsewhere : place ∉ edits.map Edit.place) (s : State) :
    place.content (Change.applyAll s edits) = place.content s := by
  induction edits generalizing s with
  | nil => rfl
  | cons edit edits ih =>
      have ⟨different, later⟩ := not_or.1 (mt List.mem_cons.2 elsewhere)
      rw [Change.applyAll_cons, ih later]
      exact content_apply_of_ne edit s (Ne.symm different)

/-- Edits of different places are all found at their places. -/
theorem content_applyAll {edits : List Edit} (distinct : (edits.map Edit.place).Nodup)
    {edit : Edit} (member : edit ∈ edits) (s : State) :
    edit.place.content (Change.applyAll s edits) = edit := by
  induction edits generalizing s with
  | nil => cases member
  | cons first edits ih =>
      have ⟨apart, others⟩ := List.nodup_cons.1 distinct
      rw [Change.applyAll_cons]
      rcases List.mem_cons.1 member with rfl | later
      · rw [content_applyAll_of_notMem apart]
        exact content_apply edit s
      · exact ih others later (first.apply s)

end Edit

/-! ## What no edit reaches -/

/-- Two states agree in everything that is not at a place. -/
structure SameFrame (s s₀ : State) : Prop where
  config : Config.EditOf s.config s₀.config
  packagePath : s.flags.packagePath = s₀.flags.packagePath
  configPath : s.flags.configPath = s₀.flags.configPath

namespace SameFrame

theorem refl (s : State) : SameFrame s s :=
  ⟨.refl s.config, rfl, rfl⟩

theorem trans {s t u : State} (first : SameFrame s t) (second : SameFrame t u) : SameFrame s u where
  config := first.config.trans second.config
  packagePath := first.packagePath.trans second.packagePath
  configPath := first.configPath.trans second.configPath

theorem apply (edit : Edit) (s : State) : SameFrame (edit.apply s) s := by
  cases edit with
  | text place value =>
      cases place <;> exact ⟨⟨rfl, rfl, rfl, rfl, rfl, rfl, rfl, rfl, rfl, rfl⟩, rfl, rfl⟩
  | flag place value =>
      cases place <;> exact ⟨⟨rfl, rfl, rfl, rfl, rfl, rfl, rfl, rfl, rfl, rfl⟩, rfl, rfl⟩
  | list place value =>
      cases place <;> exact ⟨⟨rfl, rfl, rfl, rfl, rfl, rfl, rfl, rfl, rfl, rfl⟩, rfl, rfl⟩
  | _ => exact ⟨⟨rfl, rfl, rfl, rfl, rfl, rfl, rfl, rfl, rfl, rfl⟩, rfl, rfl⟩

theorem applyAll (edits : List Edit) (s : State) : SameFrame (Change.applyAll s edits) s := by
  induction edits generalizing s with
  | nil => exact refl s
  | cons edit edits ih => exact (ih (edit.apply s)).trans (apply edit s)

end SameFrame

/-! ## Sections as collections of places -/

/-- Whether a place lies in the section of an infrastructure, or is taken over into it. -/
def Place.isOf : Config.Provider → Place → Bool
  | .aws, text .awsRegion | .aws, text .awsCustomerTag | .aws, text .awsCacheRegistry
  | .aws, text .awsVpcId | .aws, text .awsEksDnsIp | .aws, flag .awsReduceNsTtl
  | .aws, list .awsJumpHosts | .aws, text .jumpHosts => true
  | .onprem, text .argoIp | .onprem, text .traefikIp | .onprem, text .nginxIp
  | .onprem, text .dockerUsername | .onprem, text .dockerToken => true
  | _, _ => false

/-- A section is the same if its unknown keys and the contents of its places are. -/
theorem aws_eq {s s₀ : State} (frame : SameFrame s s₀)
    (same : ∀ place : Place, place.isOf .aws = true → place.content s = place.content s₀) :
    s.config.aws = s₀.config.aws := by
  have region := (Edit.text.inj (same (.text .awsRegion) rfl)).2
  have tag := (Edit.text.inj (same (.text .awsCustomerTag) rfl)).2
  have registry := (Edit.text.inj (same (.text .awsCacheRegistry) rfl)).2
  have vpc := (Edit.text.inj (same (.text .awsVpcId) rfl)).2
  have dns := (Edit.text.inj (same (.text .awsEksDnsIp) rfl)).2
  have ttl := (Edit.flag.inj (same (.flag .awsReduceNsTtl) rfl)).2
  have hosts := (Edit.list.inj (same (.list .awsJumpHosts) rfl)).2
  have extra := frame.config.aws
  simp only [TextPlace.get, FlagPlace.get, ListPlace.get] at region tag registry vpc dns ttl hosts
  cases left : s.config.aws
  cases right : s₀.config.aws
  simp only [left, right] at *
  subst_vars
  rfl

theorem onprem_eq {s s₀ : State} (frame : SameFrame s s₀)
    (same : ∀ place : Place, place.isOf .onprem = true → place.content s = place.content s₀) :
    s.config.onprem = s₀.config.onprem := by
  have argo := (Edit.text.inj (same (.text .argoIp) rfl)).2
  have traefik := (Edit.text.inj (same (.text .traefikIp) rfl)).2
  have nginx := (Edit.text.inj (same (.text .nginxIp) rfl)).2
  have username := (Edit.text.inj (same (.text .dockerUsername) rfl)).2
  have token := (Edit.text.inj (same (.text .dockerToken) rfl)).2
  have extra := frame.config.onprem
  simp only [TextPlace.get] at argo traefik nginx username token
  cases left : s.config.onprem
  cases right : s₀.config.onprem
  simp only [left, right] at *
  subst_vars
  rfl

theorem orch_eq {s s₀ : State} (frame : SameFrame s s₀)
    (enabled : (Place.list .enabled).content s = (Place.list .enabled).content s₀)
    (password : (Place.text .defaultPassword).content s =
      (Place.text .defaultPassword).content s₀) :
    s.config.orch = s₀.config.orch := by
  have enabled_eq := (Edit.list.inj enabled).2
  have password_eq := (Edit.text.inj password).2
  have extra := frame.config.orch
  simp only [TextPlace.get, ListPlace.get] at enabled_eq password_eq
  cases left : s.config.orch
  cases right : s₀.config.orch
  simp only [left, right] at *
  subst_vars
  rfl

end InstallerSetup.Form
