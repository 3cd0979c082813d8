import InstallerSetup.Text.Pattern

/-!
# What patterns describe

The texts of a pattern from those of its parts, one statement for each way to put patterns together.
Repetitions are only looked at for single characters: there they are the texts over a class.
-/

namespace InstallerSetup.Text.Pattern

variable {a b : Pattern} {p : Char → Bool} {s : List Char}

theorem describes_done_iff : Describes .done s ↔ s = [] := by
  constructor
  · intro h
    cases h
    rfl
  · rintro rfl
    exact .done

theorem describes_one_iff : Describes (.one p) s ↔ ∃ c, s = [c] ∧ p c = true := by
  constructor
  · intro h
    cases h with
    | one inClass => exact ⟨_, rfl, inClass⟩
  · rintro ⟨c, rfl, inClass⟩
    exact .one inClass

theorem describes_chain_iff :
    Describes (.chain a b) s ↔
      ∃ front back, s = front ++ back ∧ Describes a front ∧ Describes b back := by
  constructor
  · intro h
    cases h with
    | chain left right => exact ⟨_, _, rfl, left, right⟩
  · rintro ⟨front, back, rfl, left, right⟩
    exact .chain left right

theorem describes_either_iff : Describes (.either a b) s ↔ Describes a s ∨ Describes b s := by
  constructor
  · intro h
    cases h with
    | left h => exact .inl h
    | right h => exact .inr h
  · rintro (h | h)
    · exact .left h
    · exact .right h

theorem describes_optional_iff : Describes (optional a) s ↔ Describes a s ∨ s = [] := by
  rw [optional, describes_either_iff, describes_done_iff]

/-- The repetitions of a class are the texts over it. -/
theorem describes_many_iff : Describes (.many (.one p)) s ↔ ∀ c ∈ s, p c = true := by
  constructor
  · intro h
    generalize repetition : Pattern.many (.one p) = m at h
    induction h with
    | none => exact List.forall_mem_nil _
    | more head tail _ ih =>
        cases repetition
        cases head with
        | one inClass => exact List.forall_mem_cons.2 ⟨inClass, ih rfl⟩
    | done | one | chain | left | right => cases repetition
  · intro inClass
    induction s with
    | nil => exact .none
    | cons c s ih =>
        obtain ⟨first, later⟩ := List.forall_mem_cons.1 inClass
        exact .more (.one first) (ih later)

theorem describes_some_iff :
    Describes (some (.one p)) s ↔ s ≠ [] ∧ ∀ c ∈ s, p c = true := by
  rw [some, describes_chain_iff]
  constructor
  · rintro ⟨front, back, rfl, first, later⟩
    obtain ⟨c, rfl, inClass⟩ := describes_one_iff.1 first
    exact ⟨List.cons_ne_nil _ _, List.forall_mem_cons.2 ⟨inClass, describes_many_iff.1 later⟩⟩
  · rintro ⟨filled, inClass⟩
    obtain ⟨c, rest, rfl⟩ := List.exists_cons_of_ne_nil filled
    obtain ⟨first, later⟩ := List.forall_mem_cons.1 inClass
    exact ⟨[c], rest, rfl, .one first, describes_many_iff.2 later⟩

theorem describes_literal_iff {text : List Char} : Describes (literal text) s ↔ s = text := by
  induction text generalizing s with
  | nil => exact describes_done_iff
  | cons c text ih =>
      cases text with
      | nil =>
          rw [literal, describes_one_iff]
          constructor
          · rintro ⟨d, rfl, same⟩
            rw [beq_iff_eq.1 same]
          · rintro rfl
            exact ⟨c, rfl, beq_self_eq_true c⟩
      | cons d text =>
          rw [literal, describes_chain_iff]
          · constructor
            · rintro ⟨front, back, rfl, first, later⟩
              obtain ⟨e, rfl, same⟩ := describes_one_iff.1 first
              rw [beq_iff_eq.1 same, ih.1 later]
              rfl
            · rintro rfl
              exact ⟨[c], d :: text, rfl, .one (beq_self_eq_true c), ih.2 rfl⟩
          · exact List.cons_ne_nil _ _

end InstallerSetup.Text.Pattern
