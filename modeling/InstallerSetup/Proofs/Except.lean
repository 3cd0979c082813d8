/-!
# Results of computations that can fail

What it means for a sequence of two steps to succeed, and how a result is known from an option that
can be computed.
-/

namespace Except

variable {ε α β : Type}

theorem bind_eq_ok_iff {x : Except ε α} {f : α → Except ε β} {b : β} :
    (x >>= f) = .ok b ↔ ∃ a, x = .ok a ∧ f a = .ok b := by
  cases x with
  | error reason => simp [bind, Except.bind]
  | ok a => simp [bind, Except.bind]

theorem eq_ok_of_toOption {x : Except ε α} {a : α} (same : x.toOption = some a) : x = .ok a := by
  cases x <;> cases same
  rfl

theorem ne_ok_of_toOption {x : Except ε α} (failed : x.toOption = none) (a : α) : x ≠ .ok a := by
  rintro rfl
  cases failed

end Except
