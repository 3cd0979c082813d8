import Mathlib.Data.List.Forall2

/-!
# Lists that are paired

In two lists that are related element by element, every element has a partner at its own position.
-/

namespace InstallerSetup

variable {α β : Type} {R : α → β → Prop} {as : List α} {bs : List β}

theorem exists_partner (paired : List.Forall₂ R as bs) {a : α} (member : a ∈ as) :
    ∃ b ∈ bs, R a b := by
  induction paired with
  | nil => cases member
  | cons related _ ih =>
      rcases List.mem_cons.1 member with rfl | later
      · exact ⟨_, List.mem_cons_self, related⟩
      · obtain ⟨b, found, related'⟩ := ih later
        exact ⟨b, List.mem_cons_of_mem _ found, related'⟩

theorem exists_partner_of_right (paired : List.Forall₂ R as bs) {b : β} (member : b ∈ bs) :
    ∃ a ∈ as, R a b :=
  exists_partner paired.flip member

end InstallerSetup
