import InstallerSetup.Proofs.Rule.Basic
import Mathlib.Algebra.Group.Nat.Defs

/-!
# Ports of mail servers

A port is written as a numeral, which may have one plus sign in front (`Denotes`). It is read as its
value if that fits in 64 bits, however long the numeral is (`signedNumeral_eq_ok_iff`), and only a
value that was read is compared with the bounds of a port. So the value of a numeral decides whether
it is accepted, refused for its range or not read at all (`smtpPort_by_value`).
-/

namespace InstallerSetup.Rule

/-! ## Numerals with a sign -/

structure IsDigits (cs : List Char) : Prop where
  filled : cs ≠ []
  spelled : ∀ c ∈ cs, c.isDigit = true

/-- The numerals for a value: its digits, with any number of zeros and at most one plus sign. -/
inductive Denotes : List Char → Nat → Prop where
  | plain {digits : List Char} (all : IsDigits digits) :
      Denotes digits (Nat.ofDigitChars 10 digits 0)
  | signed {digits : List Char} (all : IsDigits digits) :
      Denotes ('+' :: digits) (Nat.ofDigitChars 10 digits 0)

def unsigned : List Char → List Char
  | '+' :: rest => rest
  | cs => cs

theorem eq_unsigned_or (cs : List Char) : cs = unsigned cs ∨ cs = '+' :: unsigned cs := by
  fun_cases unsigned cs with
  | case1 rest => exact .inr rfl
  | case2 => exact .inl rfl

theorem IsDigits.unsigned_eq {cs : List Char} (all : IsDigits cs) : unsigned cs = cs := by
  rcases eq_unsigned_or cs with same | sign
  · exact same.symm
  · have digit : '+'.isDigit = true := all.spelled '+' (sign ▸ List.mem_cons_self)
    exact absurd digit (by decide)

theorem denotes_iff {cs : List Char} {value : Nat} :
    Denotes cs value ↔ IsDigits (unsigned cs) ∧ Nat.ofDigitChars 10 (unsigned cs) 0 = value := by
  constructor
  · intro denotes
    cases denotes with
    | plain all =>
        rw [all.unsigned_eq]
        exact ⟨all, rfl⟩
    | signed all => exact ⟨all, rfl⟩
  · rintro ⟨all, rfl⟩
    have sign := eq_unsigned_or cs
    generalize unsigned cs = digits at all sign ⊢
    rcases sign with rfl | rfl
    · exact .plain all
    · exact .signed all

theorem Denotes.unique {cs : List Char} {value other : Nat} (one : Denotes cs value)
    (two : Denotes cs other) : value = other :=
  (denotes_iff.1 one).2.symm.trans (denotes_iff.1 two).2

/-- What is asked of some value of a numeral is asked of its value. -/
theorem Denotes.exists_iff {cs : List Char} {value : Nat} (denotes : Denotes cs value)
    {p : Nat → Prop} : (∃ other, Denotes cs other ∧ p other) ↔ p value := by
  constructor
  · rintro ⟨other, same, holds⟩
    exact denotes.unique same ▸ holds
  · exact fun holds => ⟨value, denotes, holds⟩

theorem Denotes.forall_iff {cs : List Char} {value : Nat} (denotes : Denotes cs value)
    {p : Nat → Prop} : (∀ other, Denotes cs other → p other) ↔ p value :=
  ⟨fun all => all value denotes, fun holds _ same => denotes.unique same ▸ holds⟩

theorem not_denotes_nil (value : Nat) : ¬ Denotes [] value := fun denotes =>
  (denotes_iff.1 denotes).1.filled rfl

/-- The value of the digits in front, behind a sign if there is one. -/
def leadingValue (cs : List Char) : Nat :=
  Nat.ofDigitChars 10 ((unsigned cs).takeWhile Char.isDigit) 0

theorem signedNumeral_eq (cs : List Char) :
    signedNumeral cs =
      if unsigned cs = [] then .error .notDigit else numeral 0 (unsigned cs) := by
  fun_cases signedNumeral cs with
  | case1 => rfl
  | case2 => rfl
  | case3 digits filled => exact (if_neg filled).symm
  | case4 _ filled _ noSign =>
      have same : cs = unsigned cs := (eq_unsigned_or cs).resolve_right (noSign _)
      rw [← same, if_neg filled]

theorem numeralLimit_eq : numeralLimit = 2 ^ 64 := rfl

theorem numeralLimit_pos : 0 < numeralLimit := by decide

theorem signedNumeral_eq_ok_iff {cs : List Char} {value : Nat} :
    signedNumeral cs = .ok value ↔ Denotes cs value ∧ value < numeralLimit := by
  rw [signedNumeral_eq, denotes_iff]
  by_cases none : unsigned cs = []
  · rw [if_pos none]
    exact iff_of_false nofun fun ⟨⟨all, _⟩, _⟩ => all.filled none
  · rw [if_neg none, numeral_eq_ok_iff numeralLimit_pos]
    constructor
    · rintro ⟨spelled, same, small⟩
      exact ⟨⟨⟨none, spelled⟩, same⟩, small⟩
    · rintro ⟨⟨all, same⟩, small⟩
      exact ⟨all.spelled, same, small⟩

theorem signedNumeral_eq_tooLarge_iff {cs : List Char} :
    signedNumeral cs = .error .tooLarge ↔ numeralLimit ≤ leadingValue cs := by
  rw [signedNumeral_eq, leadingValue]
  by_cases none : unsigned cs = []
  · rw [if_pos none, none]
    exact iff_of_false nofun (Nat.not_le.2 numeralLimit_pos)
  · rw [if_neg none, numeral_eq_tooLarge_iff numeralLimit_pos]

/-- A numeral is only left unread if its value is too large. -/
theorem Denotes.le_of_unread {cs : List Char} {value : Nat} (denotes : Denotes cs value)
    {fault : NumeralFault} (unread : signedNumeral cs = .error fault) : numeralLimit ≤ value := by
  by_contra small
  rw [signedNumeral_eq_ok_iff.2 ⟨denotes, Nat.lt_of_not_le small⟩] at unread
  cases unread

/-! ## Ports -/

theorem smtpPort_of_read {s : String} (filled : s ≠ "") {port : Nat}
    (read : signedNumeral s.toList = .ok port) :
    smtpPort s = if 1 ≤ port ∧ port ≤ 65535 then .ok () else .error .portOutOfRange := by
  rw [smtpPort, orEmpty_of_ne_empty filled, read]

theorem smtpPort_of_unread {s : String} (filled : s ≠ "") {fault : NumeralFault}
    (unread : signedNumeral s.toList = .error fault) :
    smtpPort s = .error (.portNotNumeral s fault) := by
  rw [smtpPort, orEmpty_of_ne_empty filled, unread]

/--
The value of a port decides about it, whatever zeros or plus sign it has in front: from 1 to 65535
it is accepted, as the empty text is, and any other that fits in 64 bits is refused for its range.
What does not fit or is no numeral is not read, and it is too large exactly if its leading digits
are.
-/
theorem smtpPort_by_value (s : String) :
    (smtpPort s = .ok () ↔ s = "" ∨ ∃ port, Denotes s.toList port ∧ 1 ≤ port ∧ port ≤ 65535) ∧
      (smtpPort s = .error .portOutOfRange ↔
        ∃ port, Denotes s.toList port ∧ (port = 0 ∨ 65536 ≤ port ∧ port < 2 ^ 64)) ∧
      ((∃ fault, smtpPort s = .error (.portNotNumeral s fault)) ↔
        s ≠ "" ∧ ∀ port, Denotes s.toList port → 2 ^ 64 ≤ port) ∧
      (smtpPort s = .error (.portNotNumeral s .tooLarge) ↔ 2 ^ 64 ≤ leadingValue s.toList) := by
  rw [← numeralLimit_eq, ← signedNumeral_eq_tooLarge_iff]
  by_cases empty : s = ""
  · subst empty
    refine ⟨iff_of_true rfl (.inl rfl), iff_of_false nofun ?_, iff_of_false nofun ?_,
      iff_of_false nofun nofun⟩
    · rintro ⟨port, denotes, -⟩
      exact not_denotes_nil port denotes
    · exact fun unread => unread.1 rfl
  · cases read : signedNumeral s.toList with
    | ok port =>
        obtain ⟨denotes, fits⟩ := signedNumeral_eq_ok_iff.1 read
        have isRead : ¬ (s ≠ "" ∧ numeralLimit ≤ port) := fun unread => Nat.not_le.2 fits unread.2
        rw [smtpPort_of_read empty read, or_iff_right empty, denotes.exists_iff,
          denotes.exists_iff, denotes.forall_iff]
        by_cases inRange : 1 ≤ port ∧ port ≤ 65535
        · have notOutside : ¬ (port = 0 ∨ 65536 ≤ port ∧ port < numeralLimit) := by omega
          rw [if_pos inRange]
          exact ⟨iff_of_true rfl inRange, iff_of_false nofun notOutside,
            iff_of_false nofun isRead, iff_of_false nofun nofun⟩
        · have outside : port = 0 ∨ 65536 ≤ port ∧ port < numeralLimit := by omega
          rw [if_neg inRange]
          exact ⟨iff_of_false nofun inRange, iff_of_true rfl outside,
            iff_of_false nofun isRead, iff_of_false nofun nofun⟩
    | error fault =>
        have limit : 65535 < numeralLimit := by decide
        rw [smtpPort_of_unread empty read, or_iff_right empty]
        refine ⟨iff_of_false nofun ?_, iff_of_false nofun ?_,
          iff_of_true ⟨fault, rfl⟩ ⟨empty, fun _ denotes => denotes.le_of_unread read⟩, by simp⟩
        · rintro ⟨port, denotes, -, small⟩
          exact Nat.not_lt.2 (denotes.le_of_unread read) (Nat.lt_of_le_of_lt small limit)
        · rintro ⟨port, denotes, outside⟩
          have large := denotes.le_of_unread read
          omega

/--
Zeros in front do not make a numeral too long, and a value above 64 bits does not wrap around.
-/
example :
    smtpPort "+000000000000000000000000587" = .ok () ∧
      smtpPort "18446744073709551615" = .error .portOutOfRange ∧
      smtpPort "18446744073709552203" =
        .error (.portNotNumeral "18446744073709552203" .tooLarge) ∧
      smtpPort "++1" = .error (.portNotNumeral "++1" .notDigit) :=
  ⟨rfl, rfl, rfl, rfl⟩

end InstallerSetup.Rule
