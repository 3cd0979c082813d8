/-!
# Blank characters

The characters with the White_Space property, and the removal of blank ends. Dropping the blanks of
an end twice is dropping them once (`trimLeft_trimLeft`, `trimRight_trimRight`), as it is for both
ends (`trimChars_trimChars`). Only texts with a blank end change (`trimChars_eq_self_iff`).
-/

namespace InstallerSetup.Text

/-- The characters with the White_Space property. -/
def isBlank (c : Char) : Bool :=
  let n := c.toNat
  (9 ≤ n && n ≤ 13) || n == 32 || n == 0x85 || n == 0xA0 || n == 0x1680 ||
    (0x2000 ≤ n && n ≤ 0x200A) || n == 0x2028 || n == 0x2029 || n == 0x202F || n == 0x205F ||
    n == 0x3000

def trimLeft (cs : List Char) : List Char := cs.dropWhile isBlank

def trimRight (cs : List Char) : List Char := (trimLeft cs.reverse).reverse

def trimChars (cs : List Char) : List Char := trimRight (trimLeft cs)

def trim (s : String) : String := String.ofList (trimChars s.toList)

def trimEnd (s : String) : String := String.ofList (trimRight s.toList)

theorem trimLeft_trimLeft (cs : List Char) : trimLeft (trimLeft cs) = trimLeft cs := by
  unfold trimLeft
  induction cs with
  | nil => rfl
  | cons c cs ih =>
      by_cases h : isBlank c
      · simp [h, ih]
      · simp [h]

theorem trimRight_trimRight (cs : List Char) : trimRight (trimRight cs) = trimRight cs := by
  simp [trimRight, trimLeft_trimLeft]

theorem trimRight_cons {c : Char} (visible : isBlank c = false) (cs : List Char) :
    trimRight (c :: cs) = c :: trimRight cs := by
  unfold trimRight trimLeft
  rw [List.reverse_cons, List.dropWhile_append]
  cases rest : cs.reverse.dropWhile isBlank with
  | nil => simp [visible]
  | cons last front => simp

theorem trimLeft_eq_self_iff {cs : List Char} :
    trimLeft cs = cs ↔ ∀ c ∈ cs.head?, isBlank c = false := by
  cases cs with
  | nil => exact iff_of_true rfl nofun
  | cons c cs =>
      cases visible : isBlank c with
      | true =>
          have dropped : trimLeft (c :: cs) = trimLeft cs := List.dropWhile_cons_of_pos visible
          have shorter : (trimLeft cs).length ≤ cs.length := (List.dropWhile_sublist _).length_le
          refine iff_of_false (fun same => ?_) fun filled => ?_
          · rw [← dropped, same, List.length_cons] at shorter
            exact Nat.not_succ_le_self _ shorter
          · rw [filled c rfl] at visible
            cases visible
      | false =>
          have kept : trimLeft (c :: cs) = c :: cs :=
            List.dropWhile_cons_of_neg (Bool.not_eq_true _ ▸ visible)
          refine iff_of_true kept ?_
          rintro _ ⟨⟩
          exact visible

theorem trimRight_eq_self_iff {cs : List Char} :
    trimRight cs = cs ↔ ∀ c ∈ cs.getLast?, isBlank c = false := by
  rw [trimRight, ← List.head?_reverse, ← trimLeft_eq_self_iff]
  constructor
  · intro same
    rw [← List.reverse_reverse (trimLeft cs.reverse), same]
  · intro same
    rw [same, List.reverse_reverse]

theorem trimLeft_trimRight {cs : List Char} (trimmed : trimLeft cs = cs) :
    trimLeft (trimRight cs) = trimRight cs := by
  cases cs with
  | nil => rfl
  | cons c cs =>
      have visible : isBlank c = false := trimLeft_eq_self_iff.1 trimmed c rfl
      rw [trimRight_cons visible]
      refine trimLeft_eq_self_iff.2 ?_
      rintro _ ⟨⟩
      exact visible

theorem trimChars_trimChars (cs : List Char) : trimChars (trimChars cs) = trimChars cs := by
  unfold trimChars
  rw [trimLeft_trimRight (trimLeft_trimLeft cs), trimRight_trimRight]

/-- A text that neither begins nor ends with a blank. -/
def HasVisibleEnds (cs : List Char) : Prop :=
  (∀ c ∈ cs.head?, isBlank c = false) ∧ ∀ c ∈ cs.getLast?, isBlank c = false

theorem trimChars_eq_self_iff {cs : List Char} : trimChars cs = cs ↔ HasVisibleEnds cs := by
  rw [HasVisibleEnds, ← trimLeft_eq_self_iff, ← trimRight_eq_self_iff]
  constructor
  · intro same
    have left : trimLeft cs = cs := by
      rw [← same]
      exact trimLeft_trimRight (trimLeft_trimLeft cs)
    rw [trimChars, left] at same
    exact ⟨left, same⟩
  · rintro ⟨left, right⟩
    rw [trimChars, left, right]

theorem trim_eq_self_iff {s : String} : trim s = s ↔ HasVisibleEnds s.toList := by
  rw [← trimChars_eq_self_iff, trim, ← String.toList_inj, String.toList_ofList]

theorem mem_of_mem_trimChars {c : Char} {cs : List Char} (member : c ∈ trimChars cs) : c ∈ cs := by
  have left : c ∈ trimLeft cs := by
    have reversed := (List.dropWhile_sublist isBlank).subset (List.mem_reverse.1 member)
    exact List.mem_reverse.1 reversed
  exact (List.dropWhile_sublist isBlank).subset left

end InstallerSetup.Text
