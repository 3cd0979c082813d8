/-!
# Patterns

A small language of patterns on characters. `Pattern.Describes` says which texts a pattern stands
for, and `Pattern.accepts` decides it character by character: `after c` is the pattern of what may
follow `c`. Main statement: `accepts_iff`.
-/

namespace InstallerSetup.Text

inductive Pattern where
  /-- No text. -/
  | never
  /-- The empty text. -/
  | done
  /-- One character of a class. -/
  | one (p : Char → Bool)
  /-- Two patterns one after the other. -/
  | chain (first second : Pattern)
  | either (left right : Pattern)
  /-- Any number of repetitions. -/
  | many (p : Pattern)

namespace Pattern

inductive Describes : Pattern → List Char → Prop where
  | done : Describes .done []
  | one {p : Char → Bool} {c : Char} (h : p c = true) : Describes (.one p) [c]
  | chain {a b : Pattern} {s t : List Char} (left : Describes a s) (right : Describes b t) :
      Describes (.chain a b) (s ++ t)
  | left {a b : Pattern} {s : List Char} (h : Describes a s) : Describes (.either a b) s
  | right {a b : Pattern} {s : List Char} (h : Describes b s) : Describes (.either a b) s
  | none {a : Pattern} : Describes (.many a) []
  | more {a : Pattern} {c : Char} {s t : List Char} (head : Describes a (c :: s))
      (tail : Describes (.many a) t) : Describes (.many a) (c :: s ++ t)

/-- Two patterns one after the other, without needless parts. -/
def followedBy : Pattern → Pattern → Pattern
  | .never, _ => .never
  | .done, b => b
  | a, b => .chain a b

def orElse : Pattern → Pattern → Pattern
  | .never, b => b
  | a, .never => a
  | a, b => .either a b

def acceptsEmpty : Pattern → Bool
  | .never => false
  | .done => true
  | .one _ => false
  | .chain a b => a.acceptsEmpty && b.acceptsEmpty
  | .either a b => a.acceptsEmpty || b.acceptsEmpty
  | .many _ => true

/-- The pattern of what may follow a character. -/
def after (c : Char) : Pattern → Pattern
  | .never => .never
  | .done => .never
  | .one p => if p c then .done else .never
  | .chain a b =>
      let rest := (a.after c).followedBy b
      if a.acceptsEmpty then rest.orElse (b.after c) else rest
  | .either a b => (a.after c).orElse (b.after c)
  | .many a => (a.after c).followedBy (.many a)

def accepts : Pattern → List Char → Bool
  | p, [] => p.acceptsEmpty
  | p, c :: rest => (p.after c).accepts rest

def matchesText (p : Pattern) (s : String) : Bool := p.accepts s.toList

def literal : List Char → Pattern
  | [] => .done
  | [c] => .one (· == c)
  | c :: rest => .chain (.one (· == c)) (literal rest)

def some (p : Pattern) : Pattern := .chain p (.many p)

def optional (p : Pattern) : Pattern := .either p .done

def times (p : Pattern) : Nat → Pattern
  | 0 => .done
  | 1 => p
  | n + 1 => .chain p (times p n)

theorem describes_followedBy {a b : Pattern} {s : List Char} :
    Describes (a.followedBy b) s ↔ Describes (.chain a b) s := by
  unfold followedBy
  split
  · constructor
    · intro h
      cases h
    · intro h
      cases h with
      | chain left _ => cases left
  · constructor
    · intro h
      exact .chain .done h
    · intro h
      cases h with
      | chain left right =>
          cases left
          exact right
  · exact Iff.rfl

theorem describes_orElse {a b : Pattern} {s : List Char} :
    Describes (a.orElse b) s ↔ Describes (.either a b) s := by
  unfold orElse
  split
  · constructor
    · intro h
      exact .right h
    · intro h
      cases h with
      | left h => cases h
      | right h => exact h
  · constructor
    · intro h
      exact .left h
    · intro h
      cases h with
      | left h => exact h
      | right h => cases h
  · exact Iff.rfl

theorem acceptsEmpty_iff {p : Pattern} : p.acceptsEmpty = true ↔ Describes p [] := by
  induction p with
  | never => exact ⟨nofun, nofun⟩
  | done => exact ⟨fun _ => .done, fun _ => rfl⟩
  | one p => exact ⟨nofun, nofun⟩
  | chain a b iha ihb =>
      constructor
      · intro h
        have h := Bool.and_eq_true_iff.1 h
        exact .chain (iha.1 h.1) (ihb.1 h.2)
      · intro h
        generalize hs : ([] : List Char) = s at h
        cases h with
        | chain left right =>
            have ⟨hl, hr⟩ := List.append_eq_nil_iff.1 hs.symm
            subst hl
            subst hr
            exact Bool.and_eq_true_iff.2 ⟨iha.2 left, ihb.2 right⟩
  | either a b iha ihb =>
      constructor
      · intro h
        rcases Bool.or_eq_true_iff.1 h with h | h
        · exact .left (iha.1 h)
        · exact .right (ihb.1 h)
      · intro h
        cases h with
        | left h => exact Bool.or_eq_true_iff.2 (.inl (iha.2 h))
        | right h => exact Bool.or_eq_true_iff.2 (.inr (ihb.2 h))
  | many p _ => exact ⟨fun _ => .none, fun _ => rfl⟩

theorem describes_after {p : Pattern} {c : Char} {s : List Char} :
    Describes (p.after c) s ↔ Describes p (c :: s) := by
  induction p generalizing s with
  | never => exact ⟨nofun, nofun⟩
  | done => exact ⟨nofun, nofun⟩
  | one p =>
      by_cases hp : p c = true
      · simp only [after, hp, if_true]
        constructor
        · intro h
          cases h
          exact .one hp
        · intro h
          cases h
          exact .done
      · simp only [after, hp]
        constructor
        · intro h
          cases h
        · intro h
          cases h with
          | one h => exact absurd h hp
  | chain a b iha ihb =>
      have split : Describes (.chain (a.after c) b) s ∨
          (a.acceptsEmpty = true ∧ Describes (b.after c) s) ↔ Describes (.chain a b) (c :: s) := by
        constructor
        · intro h
          rcases h with h | ⟨he, h⟩
          · cases h with
            | chain left right => exact .chain (iha.1 left) right
          · exact .chain (acceptsEmpty_iff.1 he) (ihb.1 h)
        · intro h
          generalize hs : c :: s = t at h
          cases h with
          | @chain _ _ u v left right =>
              cases u with
              | nil =>
                  rw [List.nil_append] at hs
                  subst hs
                  exact .inr ⟨acceptsEmpty_iff.2 left, ihb.2 right⟩
              | cons d u =>
                  rw [List.cons_append] at hs
                  obtain ⟨hc, ht⟩ := List.cons.inj hs
                  subst hc
                  subst ht
                  exact .inl (.chain (iha.2 left) right)
      rw [← split]
      by_cases he : a.acceptsEmpty = true
      · rw [after, if_pos he, describes_orElse]
        simp only [he, true_and]
        constructor
        · intro h
          cases h with
          | left h => exact .inl (describes_followedBy.1 h)
          | right h => exact .inr h
        · intro h
          rcases h with h | h
          · exact .left (describes_followedBy.2 h)
          · exact .right h
      · rw [after, if_neg he, describes_followedBy]
        exact ⟨.inl, fun h => h.resolve_right fun h => he h.1⟩
  | either a b iha ihb =>
      rw [after, describes_orElse]
      constructor
      · intro h
        cases h with
        | left h => exact .left (iha.1 h)
        | right h => exact .right (ihb.1 h)
      · intro h
        cases h with
        | left h => exact .left (iha.2 h)
        | right h => exact .right (ihb.2 h)
  | many p ih =>
      rw [after, describes_followedBy]
      constructor
      · intro h
        cases h with
        | chain left right => exact .more (ih.1 left) right
      · intro h
        generalize hs : c :: s = t at h
        cases h with
        | none => cases hs
        | more head tail =>
            rw [List.cons_append] at hs
            obtain ⟨hc, ht⟩ := List.cons.inj hs
            subst hc
            subst ht
            exact .chain (ih.2 head) tail

/-- A pattern accepts exactly its texts. -/
theorem accepts_iff {p : Pattern} {s : List Char} : p.accepts s = true ↔ Describes p s := by
  induction s generalizing p with
  | nil => exact acceptsEmpty_iff
  | cons c s ih => exact Iff.trans ih describes_after

end Pattern

end InstallerSetup.Text
