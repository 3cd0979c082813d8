/-!
# Pieces of a text

`pieces sep` cuts a text at every separator. Main statements: no piece holds a separator, the pieces
joined by the separator are the text again, and texts without a separator that are joined by it are
the pieces of what they are joined to.
-/

namespace InstallerSetup.Text

/-- The pieces of a text between separators; there is one more piece than separators. -/
def pieces (sep : Char) : List Char → List (List Char)
  | [] => [[]]
  | c :: rest =>
      if c = sep then [] :: pieces sep rest
      else
        match pieces sep rest with
        | [] => [[c]]
        | piece :: others => (c :: piece) :: others

theorem pieces_ne_nil (sep : Char) (cs : List Char) : pieces sep cs ≠ [] := by
  cases cs with
  | nil => exact List.cons_ne_nil _ _
  | cons c rest =>
      unfold pieces
      split
      · exact List.cons_ne_nil _ _
      · split <;> exact List.cons_ne_nil _ _

theorem not_mem_of_mem_pieces {sep : Char} {cs piece : List Char} (h : piece ∈ pieces sep cs) :
    sep ∉ piece := by
  induction cs generalizing piece with
  | nil =>
      rw [pieces, List.mem_singleton] at h
      exact h ▸ List.not_mem_nil
  | cons c rest ih =>
      unfold pieces at h
      split at h
      · rcases List.mem_cons.1 h with h | h
        · exact h ▸ List.not_mem_nil
        · exact ih h
      · next different =>
          split at h
          · next empty => exact absurd empty (pieces_ne_nil sep rest)
          · next first others found =>
              rcases List.mem_cons.1 h with h | h
              · have absent : sep ∉ first := ih (found ▸ List.mem_cons_self)
                exact h ▸ List.not_mem_cons_of_ne_of_not_mem (Ne.symm different) absent
              · exact ih (found ▸ List.mem_cons_of_mem _ h)

def join (sep : Char) : List (List Char) → List Char
  | [] => []
  | [piece] => piece
  | piece :: rest => piece ++ sep :: join sep rest

theorem join_eq_intercalate (sep : Char) (texts : List (List Char)) :
    join sep texts = [sep].intercalate texts := by
  induction texts with
  | nil => rfl
  | cons text texts ih =>
      cases texts with
      | nil => exact List.intercalate_singleton.symm
      | cons second others =>
          rw [join, ih, List.intercalate_cons_cons, List.append_assoc, List.singleton_append]
          exact List.cons_ne_nil _ _

theorem join_pieces (sep : Char) (cs : List Char) : join sep (pieces sep cs) = cs := by
  induction cs with
  | nil => rfl
  | cons c rest ih =>
      unfold pieces
      split
      · next same =>
          cases found : pieces sep rest with
          | nil => exact absurd found (pieces_ne_nil sep rest)
          | cons first others =>
              rw [found] at ih
              rw [join, ih, same, List.nil_append]
              exact List.cons_ne_nil _ _
      · cases found : pieces sep rest with
        | nil => exact absurd found (pieces_ne_nil sep rest)
        | cons first others =>
            rw [found] at ih
            cases others with
            | nil => exact congrArg (c :: ·) ih
            | cons second others => exact congrArg (c :: ·) ih

theorem pieces_of_not_mem {sep : Char} {cs : List Char} (absent : sep ∉ cs) :
    pieces sep cs = [cs] := by
  induction cs with
  | nil => rfl
  | cons c rest ih =>
      obtain ⟨different, later⟩ := not_or.1 (mt List.mem_cons.2 absent)
      rw [pieces, if_neg (Ne.symm different), ih later]

/-- Cutting at a separator keeps what lies before it and behind it apart. -/
theorem pieces_append_separator (sep : Char) (front back : List Char) :
    pieces sep (front ++ sep :: back) = pieces sep front ++ pieces sep back := by
  induction front with
  | nil =>
      have cut : pieces sep (sep :: back) = [] :: pieces sep back := if_pos rfl
      rw [List.nil_append, cut, pieces, List.singleton_append]
  | cons c front ih =>
      rw [List.cons_append, pieces, pieces, ih]
      by_cases same : c = sep
      · rw [if_pos same, if_pos same, List.cons_append]
      · rw [if_neg same, if_neg same]
        cases found : pieces sep front with
        | nil => exact absurd found (pieces_ne_nil sep front)
        | cons first others => rfl

theorem pieces_append {sep : Char} {cs : List Char} (absent : sep ∉ cs) (rest : List Char) :
    pieces sep (cs ++ sep :: rest) = cs :: pieces sep rest := by
  rw [pieces_append_separator, pieces_of_not_mem absent, List.singleton_append]

theorem pieces_join {sep : Char} {texts : List (List Char)} (some_text : texts ≠ [])
    (absent : ∀ text ∈ texts, sep ∉ text) : pieces sep (join sep texts) = texts := by
  induction texts with
  | nil => exact absurd rfl some_text
  | cons text texts ih =>
      have first := absent text List.mem_cons_self
      cases texts with
      | nil => exact pieces_of_not_mem first
      | cons second others =>
          have later := ih (List.cons_ne_nil _ _) fun other member =>
            absent other (List.mem_cons_of_mem _ member)
          rw [join, pieces_append first, later]
          exact List.cons_ne_nil _ _

/-- Texts without a separator are joined to a text exactly if they are its pieces. -/
theorem join_eq_iff {sep : Char} {texts : List (List Char)} (some_text : texts ≠ [])
    (absent : ∀ text ∈ texts, sep ∉ text) {cs : List Char} :
    join sep texts = cs ↔ texts = pieces sep cs := by
  constructor
  · rintro rfl
    exact (pieces_join some_text absent).symm
  · rintro rfl
    exact join_pieces sep cs

theorem join_eq_nil_iff {sep : Char} {texts : List (List Char)} :
    join sep texts = [] ↔ texts = [] ∨ texts = [[]] := by
  cases texts with
  | nil => simp [join]
  | cons text texts => cases texts <;> simp [join]

theorem toList_intercalate {sep : Char} {mark : String} (single : mark.toList = [sep])
    (texts : List String) :
    (mark.intercalate texts).toList = join sep (texts.map String.toList) := by
  rw [String.toList_intercalate, single, join_eq_intercalate]

end InstallerSetup.Text
