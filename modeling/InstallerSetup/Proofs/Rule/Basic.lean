import InstallerSetup.Proofs.Text.Pattern
import InstallerSetup.Rule
import Mathlib.Data.List.TakeWhile

/-!
# What rules read

The parts that rules are made of: classes of characters, which are those of ASCII, patterns one
after the other, and decimal numerals. Digits are read as their value if that is below the limit,
however many they are (`numeral_of_digits`). Of other texts the digits in front decide why they have
no value (`numeral_eq`).
-/

namespace InstallerSetup.Rule

open Text (Pattern)
open Text.Pattern (Describes)

/-! ## Characters -/

theorem isDigit_eq (c : Char) : isDigit c = c.isDigit := rfl

theorem isLowerOrDigit_iff {c : Char} : isLowerOrDigit c = true ↔ c.isLower ∨ c.isDigit :=
  Bool.or_eq_true_iff

theorem isDomainCharacter_iff {c : Char} :
    isDomainCharacter c = true ↔ c.isLower ∨ c.isDigit ∨ c ∈ ['.', '-'] := by
  simp [isDomainCharacter, isLowerOrDigit_iff, or_assoc]

theorem isMailboxCharacter_iff {c : Char} :
    isMailboxCharacter c = true ↔ c.isLower ∨ c.isDigit ∨ c ∈ ['.', '_', '%', '+', '-'] := by
  simp [isMailboxCharacter, isLowerOrDigit_iff, or_assoc]

def SpelledWith (marks cs : List Char) : Prop := ∀ c ∈ cs, c.isLower ∨ c.isDigit ∨ c ∈ marks

theorem SpelledWith.mono {marks more cs : List Char} (spelled : SpelledWith marks cs)
    (within : ∀ c ∈ marks, c ∈ more) : SpelledWith more cs := by
  intro c member
  rcases spelled c member with lower | digit | listed
  · exact .inl lower
  · exact .inr (.inl digit)
  · exact .inr (.inr (within c listed))

theorem SpelledWith.not_mem {marks cs : List Char} (spelled : SpelledWith marks cs) {c : Char}
    (other : ¬ (c.isLower ∨ c.isDigit ∨ c ∈ marks)) : c ∉ cs :=
  mt (spelled c) other

theorem toNat_lt_of_isLower {c : Char} (lower : c.isLower = true) : c.toNat < 128 := by
  have upTo : c.val ≤ 'z'.val := decide_eq_true_iff.1 (Bool.and_eq_true_iff.1 lower).2
  exact Nat.lt_of_le_of_lt (UInt32.le_iff_toNat_le.1 upTo) (by decide)

/-- Letters and digits are those of ASCII. -/
theorem SpelledWith.ascii {marks cs : List Char} (spelled : SpelledWith marks cs)
    (narrow : ∀ c ∈ marks, c.toNat < 128) : ∀ c ∈ cs, c.toNat < 128 := by
  intro c member
  rcases spelled c member with lower | digit | listed
  · exact toNat_lt_of_isLower lower
  · exact Nat.lt_of_le_of_lt (Char.isDigit_iff_toNat.1 digit).2 (by decide)
  · exact narrow c listed

/-! ## Patterns -/

theorem describes_sequence_cons_iff {p : Pattern} {rest : List Pattern} {s : List Char} :
    Describes (sequence (p :: rest)) s ↔
      ∃ front back, s = front ++ back ∧ Describes p front ∧ Describes (sequence rest) back := by
  cases rest with
  | nil =>
      constructor
      · intro described
        exact ⟨s, [], (List.append_nil s).symm, described, .done⟩
      · rintro ⟨front, back, rfl, described, empty⟩
        rw [Pattern.describes_done_iff.1 empty, List.append_nil]
        exact described
  | cons q others => exact Pattern.describes_chain_iff

/-- A literal in front of other patterns. -/
theorem describes_sequence_literal_iff {text : String} {rest : List Pattern} {s : List Char} :
    Describes (sequence (literal text :: rest)) s ↔
      ∃ back, s = text.toList ++ back ∧ Describes (sequence rest) back := by
  rw [describes_sequence_cons_iff]
  constructor
  · rintro ⟨front, back, rfl, first, later⟩
    rw [Pattern.describes_literal_iff.1 first]
    exact ⟨back, rfl, later⟩
  · rintro ⟨back, rfl, later⟩
    exact ⟨text.toList, back, rfl, Pattern.describes_literal_iff.2 rfl, later⟩

theorem matching_of_describes {p : Pattern} {s : String} (described : Describes p s.toList)
    (refusal : Refusal) : matching p refusal s = .ok () :=
  if_pos (Pattern.accepts_iff.2 described)

theorem matching_of_not_describes {p : Pattern} {s : String} (different : ¬ Describes p s.toList)
    (refusal : Refusal) : matching p refusal s = .error refusal :=
  if_neg (mt Pattern.accepts_iff.1 different)

theorem matching_eq_ok_iff {p : Pattern} {refusal : Refusal} {s : String} :
    matching p refusal s = .ok () ↔ Describes p s.toList := by
  by_cases described : Describes p s.toList
  · exact iff_of_true (matching_of_describes described refusal) described
  · rw [matching_of_not_describes described]
    exact iff_of_false nofun described

theorem orEmpty_of_ne_empty {s : String} (filled : s ≠ "") (rule : Rule) :
    orEmpty rule s = rule s :=
  if_neg (mt String.isEmpty_iff.1 filled)

theorem orEmpty_eq_ok_iff {rule : Rule} {s : String} :
    orEmpty rule s = .ok () ↔ s = "" ∨ rule s = .ok () := by
  by_cases empty : s = ""
  · rw [orEmpty, if_pos (String.isEmpty_iff.2 empty)]
    exact iff_of_true rfl (.inl empty)
  · rw [orEmpty_of_ne_empty empty]
    exact (or_iff_right empty).symm

/-! ## Numerals -/

theorem le_ofDigitChars (value : Nat) (digits : List Char) :
    value ≤ Nat.ofDigitChars 10 digits value := by
  rw [Nat.ofDigitChars_eq_ofDigitChars_zero]
  have grown : value ≤ 10 ^ digits.length * value :=
    Nat.le_mul_of_pos_left value (Nat.pow_pos (by decide))
  exact Nat.le_trans grown (Nat.le_add_right _ _)

/-- Reading ends where the value no longer fits, or else at the first character that is no digit. -/
theorem numeral_eq {value : Nat} (fits : value < numeralLimit) (cs : List Char) :
    numeral value cs =
      if numeralLimit ≤ Nat.ofDigitChars 10 (cs.takeWhile Char.isDigit) value then .error .tooLarge
      else if cs.all Char.isDigit then .ok (Nat.ofDigitChars 10 cs value)
      else .error .notDigit := by
  induction cs generalizing value with
  | nil => exact (if_neg (Nat.not_le.2 fits)).symm
  | cons c rest ih =>
      rw [numeral, isDigit_eq]
      by_cases digit : c.isDigit = true
      · have code : '0'.toNat = 48 := rfl
        rw [if_pos digit, List.takeWhile_cons_of_pos digit, List.all_cons, digit, Bool.true_and,
          Nat.ofDigitChars_cons, Nat.ofDigitChars_cons, code]
        by_cases large : numeralLimit ≤ 10 * value + (c.toNat - 48)
        · -- digits that follow do not make the value smaller
          have final := le_ofDigitChars (10 * value + (c.toNat - 48)) (rest.takeWhile Char.isDigit)
          rw [if_pos large, if_pos (Nat.le_trans large final)]
        · rw [if_neg large]
          exact ih (Nat.lt_of_not_le large)
      · have other : (c :: rest).all Char.isDigit ≠ true := fun digits =>
          digit (List.all_eq_true.1 digits c List.mem_cons_self)
        rw [if_neg digit, List.takeWhile_cons_of_neg digit, Nat.ofDigitChars_nil,
          if_neg (Nat.not_le.2 fits), if_neg other]

/-- Digits are read as their value, or refused as too many if it does not fit. -/
theorem numeral_of_digits {value : Nat} (fits : value < numeralLimit) {digits : List Char}
    (spelled : ∀ c ∈ digits, c.isDigit = true) :
    numeral value digits =
      if Nat.ofDigitChars 10 digits value < numeralLimit then
        .ok (Nat.ofDigitChars 10 digits value)
      else .error .tooLarge := by
  rw [numeral_eq fits, List.takeWhile_eq_self_iff.2 spelled, if_pos (List.all_eq_true.2 spelled)]
  by_cases small : Nat.ofDigitChars 10 digits value < numeralLimit
  · rw [if_neg (Nat.not_le.2 small), if_pos small]
  · rw [if_pos (Nat.le_of_not_lt small), if_neg small]

theorem numeral_eq_ok_iff {value : Nat} (fits : value < numeralLimit) {cs : List Char}
    {read : Nat} :
    numeral value cs = .ok read ↔
      (∀ c ∈ cs, c.isDigit = true) ∧ Nat.ofDigitChars 10 cs value = read ∧ read < numeralLimit := by
  by_cases spelled : ∀ c ∈ cs, c.isDigit = true
  · rw [numeral_of_digits fits spelled]
    by_cases small : Nat.ofDigitChars 10 cs value < numeralLimit
    · rw [if_pos small, Except.ok.injEq]
      constructor
      · rintro rfl
        exact ⟨spelled, rfl, small⟩
      · exact fun ⟨_, same, _⟩ => same
    · rw [if_neg small]
      exact iff_of_false nofun fun ⟨_, same, below⟩ => small (same ▸ below)
  · refine iff_of_false ?_ fun ⟨digits, _⟩ => spelled digits
    rw [numeral_eq fits, if_neg (mt List.all_eq_true.1 spelled)]
    split <;> exact nofun

theorem numeral_eq_tooLarge_iff {value : Nat} (fits : value < numeralLimit) {cs : List Char} :
    numeral value cs = .error .tooLarge ↔
      numeralLimit ≤ Nat.ofDigitChars 10 (cs.takeWhile Char.isDigit) value := by
  rw [numeral_eq fits]
  by_cases large : numeralLimit ≤ Nat.ofDigitChars 10 (cs.takeWhile Char.isDigit) value
  · rw [if_pos large]
    exact iff_of_true rfl large
  · rw [if_neg large]
    refine iff_of_false ?_ large
    split <;> exact nofun

/-- A group of digits is one of an address exactly if its value is at most 255. -/
theorem isOctet_iff {digits : List Char} (spelled : ∀ c ∈ digits, c.isDigit = true) :
    isOctet digits = true ↔ Nat.ofDigitChars 10 digits 0 ≤ 255 := by
  have limit : 255 < numeralLimit := by decide
  rw [isOctet, numeral_of_digits (Nat.zero_lt_of_lt limit) spelled]
  by_cases fits : Nat.ofDigitChars 10 digits 0 < numeralLimit
  · rw [if_pos fits]
    exact decide_eq_true_iff
  · rw [if_neg fits]
    exact iff_of_false Bool.false_ne_true fun small => fits (Nat.lt_of_le_of_lt small limit)

end InstallerSetup.Rule
