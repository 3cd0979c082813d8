import InstallerSetup.Proofs.Rule.Basic
import InstallerSetup.Proofs.Text.Utf8

/-!
# Names of deployments

A name is measured by its bytes (`judgedBy_utf8ByteSize`). An accepted name has as many bytes as
characters, so what is accepted is the same for both measures, but a name with other characters may
be called too long although it has fewer than 16. This is the only difference between them
(`orchName_judged_by_bytes`).
-/

namespace InstallerSetup.Rule

open Text (Pattern)
open Text.Pattern (Describes)

theorem describes_name_iff {cs : List Char} :
    Describes (.some (.one isLowerOrDigit)) cs ↔ cs ≠ [] ∧ SpelledWith [] cs := by
  have spelled (c : Char) : isLowerOrDigit c = true ↔ c.isLower ∨ c.isDigit ∨ c ∈ [] := by
    rw [isLowerOrDigit_iff, or_iff_left (List.not_mem_nil (a := c))]
  rw [Pattern.describes_some_iff, SpelledWith]
  simp only [spelled]

theorem SpelledWith.utf8ByteSize_eq {s : String} (spelled : SpelledWith [] s.toList) :
    s.utf8ByteSize = s.length :=
  Text.utf8ByteSize_of_ascii (spelled.ascii (List.forall_mem_nil _))

def nameVerdict (s : String) : Except String Unit := (orchName s).mapError Refusal.message

theorem orchName_eq_ok_iff {s : String} : orchName s = .ok () ↔ nameVerdict s = .ok () := by
  rw [nameVerdict]
  cases orchName s with
  | ok => exact iff_of_true rfl rfl
  | error refusal => exact iff_of_false nofun nofun

theorem nameVerdict_of_long {s : String} (long : 16 ≤ s.utf8ByteSize) :
    nameVerdict s = .error "orchestrator name must be less than 16 characters" := by
  have filled : s ≠ "" := by
    rintro rfl
    exact absurd long (by decide)
  rw [nameVerdict, orchName, if_neg (mt String.isEmpty_iff.1 filled), if_pos long]
  rfl

theorem nameVerdict_of_short {s : String} (filled : s ≠ "") (short : s.utf8ByteSize < 16) :
    nameVerdict s =
      (matching (.some (.one isLowerOrDigit)) .nameCharacters s).mapError Refusal.message := by
  rw [nameVerdict, orchName, if_neg (mt String.isEmpty_iff.1 filled), if_neg (Nat.not_le.2 short)]

theorem nameVerdict_of_spelled {s : String} (filled : s ≠ "") (short : s.utf8ByteSize < 16)
    (spelled : SpelledWith [] s.toList) : nameVerdict s = .ok () := by
  have described := describes_name_iff.2 ⟨mt String.toList_eq_nil_iff.1 filled, spelled⟩
  rw [nameVerdict_of_short filled short, matching_of_describes described]
  rfl

theorem nameVerdict_of_misspelled {s : String} (filled : s ≠ "") (short : s.utf8ByteSize < 16)
    (misspelled : ¬ SpelledWith [] s.toList) :
    nameVerdict s = .error "orchestrator name must be all lower case letters or digits" := by
  have different := mt describes_name_iff.1 fun described => misspelled described.2
  rw [nameVerdict_of_short filled short, matching_of_not_describes different]
  rfl

/-- A name of a given size gets the verdict that this size and its characters call for. -/
structure JudgedBy (size : Nat) (s : String) : Prop where
  accepted : nameVerdict s = .ok () ↔ 1 ≤ size ∧ size ≤ 15 ∧ SpelledWith [] s.toList
  missing : nameVerdict s = .error "orchestrator name cannot be empty" ↔ s = ""
  long : nameVerdict s = .error "orchestrator name must be less than 16 characters" ↔ 16 ≤ size
  misspelled :
    nameVerdict s = .error "orchestrator name must be all lower case letters or digits" ↔
      1 ≤ size ∧ size ≤ 15 ∧ ¬ SpelledWith [] s.toList

/-- Of a size only counts whether it is zero and whether it reaches the limit. -/
theorem JudgedBy.congr {size other : Nat} {s : String} (judged : JudgedBy size s)
    (filled : 1 ≤ size ↔ 1 ≤ other) (long : 16 ≤ size ↔ 16 ≤ other) : JudgedBy other s := by
  have short : size ≤ 15 ↔ other ≤ 15 := by omega
  obtain ⟨accepted, missing, tooLong, misspelled⟩ := judged
  rw [filled, short] at accepted misspelled
  exact ⟨accepted, missing, tooLong.trans long, misspelled⟩

theorem judgedBy_utf8ByteSize (s : String) : JudgedBy s.utf8ByteSize s := by
  -- one case for each verdict, in the order of the checks
  by_cases empty : s = ""
  · subst empty
    have verdict : nameVerdict "" = .error "orchestrator name cannot be empty" := rfl
    refine ⟨?_, ?_, ?_, ?_⟩ <;> rw [verdict]
    · exact iff_of_false nofun fun size => absurd size.1 (by decide)
    · exact iff_of_true rfl rfl
    · exact iff_of_false (by decide) (by decide)
    · exact iff_of_false (by decide) fun size => absurd size.1 (by decide)
  · have filled : 1 ≤ s.utf8ByteSize :=
      Nat.one_le_iff_ne_zero.2 (mt String.utf8ByteSize_eq_zero_iff.1 empty)
    by_cases long : 16 ≤ s.utf8ByteSize
    · refine ⟨?_, ?_, ?_, ?_⟩ <;> rw [nameVerdict_of_long long]
      · exact iff_of_false nofun fun size => by omega
      · exact iff_of_false (by decide) empty
      · exact iff_of_true rfl long
      · exact iff_of_false (by decide) fun size => by omega
    · have short : s.utf8ByteSize < 16 := Nat.lt_of_not_le long
      by_cases spelled : SpelledWith [] s.toList
      · refine ⟨?_, ?_, ?_, ?_⟩ <;> rw [nameVerdict_of_spelled empty short spelled]
        · exact iff_of_true rfl ⟨filled, Nat.le_of_lt_succ short, spelled⟩
        · exact iff_of_false nofun empty
        · exact iff_of_false nofun long
        · exact iff_of_false nofun fun other => other.2.2 spelled
      · refine ⟨?_, ?_, ?_, ?_⟩ <;> rw [nameVerdict_of_misspelled empty short spelled]
        · exact iff_of_false nofun fun other => spelled other.2.2
        · exact iff_of_false (by decide) empty
        · exact iff_of_false (by decide) long
        · exact iff_of_true rfl ⟨filled, Nat.le_of_lt_succ short, spelled⟩

/--
A name is judged by its bytes, which for what is accepted are its characters. It is judged by its
characters too, except if it has fewer than 16 of them and not fewer than 16 bytes.
-/
theorem orchName_judged_by_bytes (s : String) :
    JudgedBy s.utf8ByteSize s ∧
      (orchName s = .ok () ↔ 1 ≤ s.length ∧ s.length ≤ 15 ∧ SpelledWith [] s.toList) ∧
      (JudgedBy s.length s ↔ ¬ (s.length < 16 ∧ 16 ≤ s.utf8ByteSize)) := by
  have judged := judgedBy_utf8ByteSize s
  refine ⟨judged, ?_, ?_, ?_⟩
  · rw [orchName_eq_ok_iff, judged.accepted]
    constructor
    · rintro ⟨filled, short, spelled⟩
      rw [spelled.utf8ByteSize_eq] at filled short
      exact ⟨filled, short, spelled⟩
    · rintro ⟨filled, short, spelled⟩
      rw [spelled.utf8ByteSize_eq]
      exact ⟨filled, short, spelled⟩
  · rintro byLength ⟨few, long⟩
    exact Nat.not_le.2 few (byLength.long.1 (judged.long.2 long))
  · intro alike
    have atMost := Text.length_le_utf8ByteSize s
    have filled : 1 ≤ s.utf8ByteSize ↔ 1 ≤ s.length := by
      rw [Nat.one_le_iff_ne_zero, Nat.one_le_iff_ne_zero, ne_eq, ne_eq,
        String.utf8ByteSize_eq_zero_iff, String.length_eq_zero_iff]
    have long : 16 ≤ s.utf8ByteSize ↔ 16 ≤ s.length := by omega
    exact judged.congr filled long

/-- Fifteen letters are accepted, and seven letters of two bytes each are not too long. -/
example :
    orchName "abcdefghijklmno" = .ok () ∧ orchName "abcdefghijklmnop" = .error .longName ∧
      orchName "ééééééé" = .error .nameCharacters :=
  ⟨rfl, rfl, rfl⟩

/-- Eight letters of two bytes each. -/
def accentedName : String := "éééééééé"

theorem accented_name_called_long :
    accentedName.length = 8 ∧
      nameVerdict accentedName = .error "orchestrator name must be less than 16 characters" ∧
      ¬ JudgedBy accentedName.length accentedName := by
  have verdict := nameVerdict_of_long (s := accentedName) (by decide)
  refine ⟨by decide, verdict, ?_⟩
  intro judged
  exact absurd (judged.long.1 verdict) (by decide)

end InstallerSetup.Rule
