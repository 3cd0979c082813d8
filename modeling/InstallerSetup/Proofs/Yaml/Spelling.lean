import InstallerSetup.Proofs.Yaml.Tree
import InstallerSetup.Yaml.Plain

/-!
# Spellings of plain scalars

A plain scalar can be spelled in several ways that mean the same, and its value is written in one of
them. `Plain.IsFaithful` says which spelling of a value that is: a truth value is in small letters,
an integer has no adornment, and a floating point number is in its shortest form. The lemmas on
digits lead to `Plain.intText_eq_iff`, which settles the integers.
-/

namespace InstallerSetup.Yaml.Plain

deriving instance DecidableEq for Meaning

/-! ## Meanings -/

/-- The kinds of plain scalars, with how each is recognized. -/
inductive Means (text : String) : Tree → Prop where
  | null (empty : text.toList = [] ∨ isNull text.toList = true) : Means text .null
  | bool {value : Bool} (read : bool? text.toList = some value) : Means text (.bool value)
  | int {value : Int} (read : bounded? text.toList = some value) : Means text (.int value)
  | float {value : Decimal.Binary64} (read : float? text.toList = some value) :
      Means text (.float value)
  | string (noNull : isNull text.toList = false) (noBool : bool? text.toList = none)
      (noInt : bounded? text.toList = none)
      (noFloat : isZeroPadded text.toList = false → float? text.toList = none) :
      Means text (.string text)

theorem means_of_meaning {text : String} {value : Tree} (means : meaning text = .tree value) :
    Means text value := by
  unfold meaning at means
  simp only at means
  split at means
  · next empty =>
      cases means
      simp only [Bool.or_eq_true, List.isEmpty_iff] at empty
      exact .null empty
  · next present =>
      split at means
      · next read =>
          cases means
          exact .bool read
      · next noBool =>
          split at means
          · next read =>
              split at means
              · cases means
                exact .int read
              · cases means
          · next noInt =>
              simp only [Bool.or_eq_true, not_or, Bool.not_eq_true] at present
              split at means
              · next read =>
                  cases means
                  split at read
                  · cases read
                  · exact .float read
              · next unread =>
                  cases means
                  refine .string present.2 noBool noInt fun unpadded => ?_
                  rw [unpadded] at unread
                  exact unread

/-! ## Decimal digits -/

/-- A decimal digit is the character of its value. -/
theorem digitChar_of_digit? {c : Char} {d : Nat} (digit : digit? 10 c = some d) :
    d < 10 ∧ c.isDigit = true ∧ Nat.digitChar d = c := by
  unfold digit? at digit
  simp only at digit
  split at digit
  · next decimal =>
      obtain ⟨least, _⟩ := Char.isDigit_iff_toNat.1 decimal
      obtain ⟨small, same⟩ := Option.ite_none_right_eq_some.1 digit
      cases same
      refine ⟨small, decimal, Char.toNat_inj.1 ?_⟩
      rw [Nat.toNat_digitChar_of_lt_ten small]
      exact Nat.add_sub_of_le least
  · obtain ⟨small, _⟩ := Option.ite_none_right_eq_some.1 digit
    split at small
    · omega
    · split at small <;> omega

theorem digitsFrom?_cons {c : Char} {cs : List Char} {v n : Nat}
    (read : digitsFrom? 10 (c :: cs) v = some n) :
    ∃ d, digit? 10 c = some d ∧ digitsFrom? 10 cs (10 * v + d) = some n := by
  unfold digitsFrom? at read
  split at read
  · next d digit => exact ⟨d, digit, read⟩
  · cases read

theorem isDigit_of_digitsFrom? {cs : List Char} {v n : Nat}
    (read : digitsFrom? 10 cs v = some n) : cs.all Char.isDigit = true := by
  induction cs generalizing v with
  | nil => rfl
  | cons c cs ih =>
      obtain ⟨d, digit, later⟩ := digitsFrom?_cons read
      obtain ⟨_, decimal, _⟩ := digitChar_of_digit? digit
      rw [List.all_cons, decimal, ih later]
      rfl

/-- Digits that are read after those of a positive number stand after these in the whole number. -/
theorem toDigits_of_digitsFrom? {cs : List Char} {v n : Nat} (positive : 0 < v)
    (read : digitsFrom? 10 cs v = some n) : Nat.toDigits 10 n = Nat.toDigits 10 v ++ cs := by
  induction cs generalizing v with
  | nil =>
      cases read
      exact (List.append_nil _).symm
  | cons c cs ih =>
      obtain ⟨d, digit, later⟩ := digitsFrom?_cons read
      obtain ⟨small, _, same⟩ := digitChar_of_digit? digit
      calc Nat.toDigits 10 n
          _ = Nat.toDigits 10 (10 * v + d) ++ cs := ih (by omega) later
          _ = Nat.toDigits 10 v ++ [c] ++ cs := by
            rw [← Nat.toDigits_append_toDigits (by decide) positive small,
              Nat.toDigits_of_lt_base small, same]
          _ = Nat.toDigits 10 v ++ c :: cs := by rw [List.append_assoc, List.singleton_append]

/-- Digits without padding are those of the number that they stand for. -/
theorem toDigits_of_natural? {cs : List Char} {n : Nat} (read : natural? 10 cs = some n)
    (unpadded : isZeroPadded cs = false) : Nat.toDigits 10 n = cs := by
  cases cs with
  | nil => cases read
  | cons c cs =>
      obtain ⟨d, digit, later⟩ := digitsFrom?_cons read
      obtain ⟨small, _, rfl⟩ := digitChar_of_digit? digit
      -- a leading zero stands alone, and after any other digit all the rest is appended
      rcases Nat.eq_zero_or_pos d with rfl | positive
      · cases cs with
        | nil =>
            cases later
            rfl
        | cons next rest =>
            have padded : isZeroPadded ('0' :: next :: rest) = true := isDigit_of_digitsFrom? later
            cases unpadded.symm.trans padded
      · rw [toDigits_of_digitsFrom? (by omega) later, Nat.mul_zero, Nat.zero_add,
          Nat.toDigits_of_lt_base small, List.singleton_append]

/-- Digits after a base mark are no digits of a number. -/
theorem toDigits_ne_of_based? {cs : List Char} (marked : (based? cs).isSome = true) (n : Nat) :
    Nat.toDigits 10 n ≠ cs := by
  intro same
  have digits : ∀ c ∈ cs, c.isDigit = true := fun c member =>
    Nat.isDigit_of_mem_toDigits (by decide) (by decide) (same ▸ member)
  unfold based? at marked
  split at marked
  · exact absurd (digits 'x' (by simp)) (by decide)
  · exact absurd (digits 'o' (by simp)) (by decide)
  · exact absurd (digits 'b' (by simp)) (by decide)
  · cases marked

/-- A magnitude is spelled like the number that it is unless it has a base mark. -/
theorem toDigits_eq_iff {cs : List Char} {n : Nat} (read : magnitude? cs = some n) :
    Nat.toDigits 10 n = cs ↔ (based? cs).isSome = false := by
  cases mark : based? cs with
  | some _ => simp [toDigits_ne_of_based? (by rw [mark]; rfl) n]
  | none =>
      unfold magnitude? at read
      rw [mark] at read
      simp only [Option.ite_none_left_eq_some] at read
      obtain ⟨unpadded, digits⟩ := read
      simpa using toDigits_of_natural? digits (Bool.eq_false_iff.2 unpadded)

/-! ## Integers -/

/-- Whether an integer has a plus or a base mark, or is zero with a minus. -/
def isAdorned : List Char → Bool
  | '+' :: _ => true
  | '-' :: rest => (based? rest).isSome || rest == ['0']
  | cs => (based? cs).isSome

theorem toList_intText_natCast (n : Nat) :
    (Tree.intText (n : Int)).toList = Nat.toDigits 10 n := by
  simp [Tree.intText, Int.repr_eq_if]

theorem toList_intText_neg {n : Nat} (positive : 0 < n) :
    (Tree.intText (-(n : Int))).toList = '-' :: Nat.toDigits 10 n := by
  simp [Tree.intText, Int.repr_eq_if, Nat.ne_of_gt positive]

theorem integer?_of_bounded? {cs : List Char} {value : Int} (read : bounded? cs = some value) :
    ∃ negative n, integer? cs = some (negative, n) ∧
      value = if negative then -(n : Int) else n := by
  unfold bounded? at read
  split at read
  · next n found =>
      obtain ⟨_, same⟩ := Option.ite_none_right_eq_some.1 read
      cases same
      exact ⟨true, n, found, rfl⟩
  · next n found =>
      obtain ⟨_, same⟩ := Option.ite_none_right_eq_some.1 read
      cases same
      exact ⟨false, n, found, rfl⟩
  · cases read

/-- Digits after a minus are written as they stand unless they have a base mark or are zero. -/
theorem minus_eq_iff {cs : List Char} {n : Nat} (read : magnitude? cs = some n) :
    (Tree.intText (-(n : Int))).toList = '-' :: cs ↔ isAdorned ('-' :: cs) = false := by
  have spelled := toDigits_eq_iff read
  have adorned : isAdorned ('-' :: cs) = ((based? cs).isSome || cs == ['0']) := rfl
  rw [adorned, Bool.or_eq_false_iff, ← spelled, beq_eq_false_iff_ne]
  rcases Nat.eq_zero_or_pos n with rfl | positive
  · -- zero is written without a minus
    rw [Nat.toDigits_zero]
    constructor
    · intro same
      cases same
    · rintro ⟨rfl, other⟩
      exact absurd rfl other
  · rw [toList_intText_neg positive, List.cons.injEq]
    constructor
    · rintro ⟨_, rfl⟩
      refine ⟨rfl, fun zero => ?_⟩
      have value := congrArg (Nat.ofDigitChars 10 · 0) zero
      simp only [Nat.ofDigitChars_ten_toDigits] at value
      exact absurd value (Nat.ne_of_gt positive)
    · rintro ⟨same, _⟩
      exact ⟨rfl, same⟩

/-- An integer is written as it is spelled unless it is adorned. -/
theorem intText_eq_iff {text : String} {value : Int} (read : bounded? text.toList = some value) :
    Tree.intText value = text ↔ isAdorned text.toList = false := by
  rw [← String.toList_inj]
  obtain ⟨negative, n, found, rfl⟩ := integer?_of_bounded? read
  unfold integer? at found
  split at found
  · next rest shape =>
      obtain ⟨m, magnitude, same⟩ := Option.map_eq_some_iff.1 found
      cases same
      rw [shape]
      exact minus_eq_iff magnitude
  · next rest shape =>
      obtain ⟨m, magnitude, same⟩ := Option.map_eq_some_iff.1 found
      cases same
      rw [shape]
      have unsigned : Nat.toDigits 10 n ≠ '+' :: rest := by
        intro same
        have decimal : '+'.isDigit = true :=
          Nat.isDigit_of_mem_toDigits (by decide) (by decide) (same ▸ List.mem_cons_self)
        cases decimal
      simp [toList_intText_natCast, unsigned, isAdorned]
  · next minus plus =>
      obtain ⟨m, magnitude, same⟩ := Option.map_eq_some_iff.1 found
      cases same
      have bare : isAdorned text.toList = (based? text.toList).isSome := by
        unfold isAdorned
        split
        · next rest shape => exact absurd shape (plus rest)
        · next rest shape => exact absurd shape (minus rest)
        · rfl
      rw [bare, ← toDigits_eq_iff magnitude]
      simp [toList_intText_natCast]

/-! ## Faithful spellings -/

/-- Whether a value is written as it is spelled. -/
def IsFaithful (text : String) : Tree → Prop
  | .null => text = ""
  | .bool _ => text = "true" ∨ text = "false"
  | .int _ => isAdorned text.toList = false
  | .float value => text = Tree.floatText value
  | .string _ => True
  | _ => False

instance (text : String) : (value : Tree) → Decidable (IsFaithful text value)
  | .null => inferInstanceAs (Decidable (text = ""))
  | .bool _ => inferInstanceAs (Decidable (text = "true" ∨ text = "false"))
  | .int _ => inferInstanceAs (Decidable (isAdorned text.toList = false))
  | .float value => inferInstanceAs (Decidable (text = Tree.floatText value))
  | .string _ => inferInstanceAs (Decidable True)
  | .sequence _ | .mapping _ | .tagged _ _ => inferInstanceAs (Decidable False)

/-- A truth value is written as it is spelled if it is in small letters. -/
theorem boolText_eq_iff {text : String} {value : Bool} (read : bool? text.toList = some value) :
    Tree.boolText value = text ↔ text = "true" ∨ text = "false" := by
  unfold bool? at read
  simp only [Bool.or_eq_true, beq_iff_eq, String.toList_inj] at read
  split at read
  · next spelled =>
      cases read
      rcases spelled with (rfl | rfl) | rfl <;> decide
  · split at read
    · next spelled =>
        cases read
        rcases spelled with (rfl | rfl) | rfl <;> decide
    · cases read

end InstallerSetup.Yaml.Plain
