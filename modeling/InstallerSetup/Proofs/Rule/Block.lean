import InstallerSetup.Proofs.Rule.Basic
import InstallerSetup.Terminal

/-!
# Certificates and keys

A block is any text between a first and a last line that name its content, so it may hold such
lines itself. Typed lines always end in a break, which no block does, so this is the break that may
stand behind one (`isBlock_append_break_iff`). They are a block exactly if these two lines frame at
least one other (`tls_accepts_blocks`).
-/

namespace InstallerSetup.Rule

open Text (Pattern)
open Text.Pattern (Describes)

def firstLine (content : String) : String := "-----BEGIN " ++ content ++ "-----"

def lastLine (content : String) : String := "-----END " ++ content ++ "-----"

def blockText (content body : String) : String :=
  firstLine content ++ "\n" ++ body ++ "\n" ++ lastLine content

/-- A block, with or without a break behind it. -/
def IsBlock (content s : String) : Prop :=
  ∃ body, s = blockText content body ∨ s = blockText content body ++ "\n"

theorem pemPattern_eq (content : String) :
    pemPattern content =
      sequence
        [literal (firstLine content ++ "\n"), .many (.one fun _ => true),
          literal ("\n" ++ lastLine content), .optional (literal "\n")] := by
  have first : "-----BEGIN " ++ content ++ "-----\n" = firstLine content ++ "\n" := by
    have split : "-----\n" = "-----" ++ "\n" := rfl
    rw [firstLine, split, ← String.append_assoc]
  have last : "\n-----END " ++ content ++ "-----" = "\n" ++ lastLine content := by
    have split : "\n-----END " = "\n" ++ "-----END " := rfl
    rw [lastLine, split, String.append_assoc, String.append_assoc, String.append_assoc]
  rw [pemPattern, first, last]

theorem toList_blockText (content body : String) :
    (blockText content body).toList =
      (firstLine content ++ "\n").toList ++ (body.toList ++ ("\n" ++ lastLine content).toList) := by
  simp only [blockText, String.toList_append, List.append_assoc]

theorem describes_pemPattern_iff {content : String} {cs : List Char} :
    Describes (pemPattern content) cs ↔
      ∃ body tail, cs = (blockText content body).toList ++ tail ∧ (tail = ['\n'] ∨ tail = []) := by
  rw [pemPattern_eq]
  constructor
  · intro described
    obtain ⟨_, rfl, fromBody⟩ := describes_sequence_literal_iff.1 described
    obtain ⟨body, _, rfl, -, fromLast⟩ := describes_sequence_cons_iff.1 fromBody
    obtain ⟨tail, rfl, tailOf⟩ := describes_sequence_literal_iff.1 fromLast
    refine ⟨String.ofList body, tail, ?_, ?_⟩
    · rw [toList_blockText, String.toList_ofList, List.append_assoc, List.append_assoc]
    · exact (Pattern.describes_optional_iff.1 tailOf).imp_left Pattern.describes_literal_iff.1
  · rintro ⟨body, tail, rfl, newline⟩
    rw [toList_blockText, List.append_assoc, List.append_assoc]
    refine describes_sequence_literal_iff.2 ⟨_, rfl, ?_⟩
    refine describes_sequence_cons_iff.2
      ⟨body.toList, _, rfl, Pattern.describes_many_iff.2 fun _ _ => rfl, ?_⟩
    refine describes_sequence_literal_iff.2 ⟨tail, rfl, ?_⟩
    exact Pattern.describes_optional_iff.2 (newline.imp_left Pattern.describes_literal_iff.2)

theorem isBlock_iff {content s : String} :
    IsBlock content s ↔ Describes (pemPattern content) s.toList := by
  rw [describes_pemPattern_iff]
  constructor
  · rintro ⟨body, rfl | rfl⟩
    · exact ⟨body, [], (List.append_nil _).symm, .inr rfl⟩
    · exact ⟨body, ['\n'], String.toList_append, .inl rfl⟩
  · rintro ⟨body, tail, whole, rfl | rfl⟩
    · have broken : (blockText content body ++ "\n").toList =
          (blockText content body).toList ++ ['\n'] := String.toList_append
      exact ⟨body, .inr (String.toList_inj.1 (whole.trans broken.symm))⟩
    · exact ⟨body, .inl (String.toList_inj.1 (whole.trans (List.append_nil _)))⟩

/-- What a rule for blocks accepts. -/
theorem orEmpty_pem_eq_ok_iff {content s : String} {refusal : Refusal} :
    orEmpty (matching (pemPattern content) refusal) s = .ok () ↔ s = "" ∨ IsBlock content s := by
  rw [orEmpty_eq_ok_iff, matching_eq_ok_iff, isBlock_iff]

/-! ## Typed lines -/

theorem exists_blockText_eq (content body : String) :
    ∃ front, (blockText content body).toList = front ++ ['-'] := by
  have dashes : "-----".toList = ['-', '-', '-', '-'] ++ ['-'] := rfl
  refine ⟨(firstLine content ++ "\n" ++ body ++ "\n" ++ "-----END " ++ content).toList ++
    ['-', '-', '-', '-'], ?_⟩
  simp only [blockText, lastLine, String.toList_append, List.append_assoc, dashes]

/-- A block does not end in a break, so one behind it is the one that may stand there. -/
theorem isBlock_append_break_iff {content text : String} :
    IsBlock content (text ++ "\n") ↔ ∃ body, text = blockText content body := by
  constructor
  · rintro ⟨body, whole | whole⟩
    · -- the text ends in a break, and the block in a dash
      obtain ⟨front, dash⟩ := exists_blockText_eq content body
      have ends : text.toList ++ ['\n'] = front ++ ['-'] := by
        rw [← dash, ← whole, String.toList_append]
        rfl
      have same : '\n' = '-' := List.singleton_inj.1 (List.append_inj_right' ends rfl)
      exact absurd same (by decide)
    · refine ⟨body, String.toList_inj.1 ?_⟩
      have chars := congrArg String.toList whole
      rw [String.toList_append, String.toList_append] at chars
      exact List.append_cancel_right chars
  · rintro ⟨body, rfl⟩
    exact ⟨body, .inr rfl⟩

theorem not_mem_toList_append {c : Char} {s t : String} (left : c ∉ s.toList)
    (right : c ∉ t.toList) : c ∉ (s ++ t).toList := by
  rw [String.toList_append, List.mem_append]
  exact not_or.2 ⟨left, right⟩

/-- The lines of a block. -/
theorem pieces_blockText {content : String} (plain : '\n' ∉ content.toList) (body : String) :
    Text.pieces '\n' (blockText content body).toList =
      (firstLine content).toList ::
        (Text.pieces '\n' body.toList ++ [(lastLine content).toList]) := by
  have first : '\n' ∉ (firstLine content).toList :=
    not_mem_toList_append (not_mem_toList_append (by decide) plain) (by decide)
  have last : '\n' ∉ (lastLine content).toList :=
    not_mem_toList_append (not_mem_toList_append (by decide) plain) (by decide)
  have whole : (blockText content body).toList =
      (firstLine content).toList ++ '\n' :: (body.toList ++ '\n' :: (lastLine content).toList) := by
    rw [toList_blockText, String.toList_append, String.toList_append, List.append_assoc]
    rfl
  rw [whole, Text.pieces_append first, Text.pieces_append_separator, Text.pieces_of_not_mem last]

/-- At least three lines of which the first and the last are those of a block. -/
def IsFramed (content : String) (lines : List String) : Prop :=
  3 ≤ lines.length ∧ lines.head? = some (firstLine content) ∧
    lines.getLast? = some (lastLine content)

theorem isFramed_iff {content : String} {lines : List String} :
    IsFramed content lines ↔
      ∃ inner, inner ≠ [] ∧ lines = firstLine content :: (inner ++ [lastLine content]) := by
  constructor
  · rintro ⟨long, first, last⟩
    obtain ⟨rest, rfl⟩ := List.head?_eq_some_iff.1 first
    obtain ⟨front, parts⟩ := List.getLast?_eq_some_iff.1 last
    cases front with
    | nil =>
        rw [parts] at long
        exact absurd long (by simp)
    | cons line inner =>
        obtain ⟨rfl, rfl⟩ := List.cons.inj parts
        refine ⟨inner, ?_, rfl⟩
        rintro rfl
        exact absurd long (by simp)
  · rintro ⟨inner, filled, rfl⟩
    have long : 3 ≤ (firstLine content :: (inner ++ [lastLine content])).length := by
      have some_line := List.length_pos_iff.2 filled
      rw [List.length_cons, List.length_append, List.length_singleton]
      omega
    exact ⟨long, rfl, List.getLast?_eq_some_iff.2 ⟨firstLine content :: inner, rfl⟩⟩

theorem toList_intercalate_break (lines : List String) :
    ("\n".intercalate lines).toList = Text.join '\n' (lines.map String.toList) :=
  Text.toList_intercalate rfl lines

/-- Lines are the lines of a block exactly if they are framed as one. -/
theorem exists_blockText_iff {content : String} (plain : '\n' ∉ content.toList)
    {lines : List String} (typed : lines ≠ []) (single : ∀ line ∈ lines, '\n' ∉ line.toList) :
    (∃ body, "\n".intercalate lines = blockText content body) ↔ IsFramed content lines := by
  have typedChars : lines.map String.toList ≠ [] := mt List.map_eq_nil_iff.1 typed
  have singleChars : ∀ text ∈ lines.map String.toList, '\n' ∉ text := List.forall_mem_map.2 single
  have cut (body : String) : "\n".intercalate lines = blockText content body ↔
      lines.map String.toList = (firstLine content).toList ::
        (Text.pieces '\n' body.toList ++ [(lastLine content).toList]) := by
    rw [← String.toList_inj, toList_intercalate_break, Text.join_eq_iff typedChars singleChars,
      pieces_blockText plain]
  rw [isFramed_iff, exists_congr cut]
  constructor
  · rintro ⟨body, parts⟩
    obtain ⟨first, rest, rfl, firstIs, restParts⟩ := List.map_eq_cons_iff.1 parts
    obtain ⟨inner, ends, rfl, innerParts, endParts⟩ := List.map_eq_append_iff.1 restParts
    obtain ⟨last, rfl, lastIs⟩ := List.map_eq_singleton_iff.1 endParts
    refine ⟨inner, ?_, ?_⟩
    · rintro rfl
      exact Text.pieces_ne_nil _ _ innerParts.symm
    · rw [String.toList_inj.1 firstIs, String.toList_inj.1 lastIs]
  · rintro ⟨inner, filled, rfl⟩
    obtain ⟨_, later⟩ := List.forall_mem_cons.1 single
    obtain ⟨innerSingle, _⟩ := List.forall_mem_append.1 later
    refine ⟨"\n".intercalate inner, ?_⟩
    have again : Text.pieces '\n' ("\n".intercalate inner).toList = inner.map String.toList := by
      rw [toList_intercalate_break]
      exact Text.pieces_join (mt List.map_eq_nil_iff.1 filled) (List.forall_mem_map.2 innerSingle)
    rw [again, List.map_cons, List.map_append, List.map_singleton]

theorem linesValue_of_clearing {only : String} (clears : Text.trim only = Terminal.clearMark)
    (current : String) : Terminal.linesValue [only] current = "" :=
  if_pos clears

theorem linesValue_of_kept {lines : List String} (typed : lines ≠ [])
    (kept : ¬ ∃ only, lines = [only] ∧ Text.trim only = Terminal.clearMark) (current : String) :
    Terminal.linesValue lines current = "\n".intercalate lines ++ "\n" := by
  match lines with
  | [] => exact absurd rfl typed
  | [only] => exact if_neg fun clears => kept ⟨only, rfl, clears⟩
  | _ :: _ :: _ => rfl

/-- Typed lines are accepted if they clear the value or are framed. -/
theorem typed_pem_eq_ok_iff {content : String} (plain : '\n' ∉ content.toList) {refusal : Refusal}
    {lines : List String} (typed : lines ≠ []) (single : ∀ line ∈ lines, '\n' ∉ line.toList)
    (current : String) :
    orEmpty (matching (pemPattern content) refusal) (Terminal.linesValue lines current) = .ok () ↔
      (∃ only, lines = [only] ∧ Text.trim only = Terminal.clearMark) ∨ IsFramed content lines := by
  rw [orEmpty_pem_eq_ok_iff]
  by_cases clears : ∃ only, lines = [only] ∧ Text.trim only = Terminal.clearMark
  · obtain ⟨only, rfl, mark⟩ := clears
    exact iff_of_true (.inl (linesValue_of_clearing mark current)) (.inl ⟨only, rfl, mark⟩)
  · have filled : "\n".intercalate lines ++ "\n" ≠ "" := by
      intro empty
      have chars := congrArg String.toList empty
      rw [String.toList_append] at chars
      exact List.append_ne_nil_of_right_ne_nil _ (List.cons_ne_nil _ _) chars
    rw [linesValue_of_kept typed clears, isBlock_append_break_iff,
      exists_blockText_iff plain typed single]
    exact or_congr (iff_of_false filled clears) Iff.rfl

/--
A certificate is accepted exactly if it is empty or a block, and so are an authority and a key. Of
what is typed for a certificate, be there empty lines or not, the mark that clears the value is
accepted, and otherwise at least three lines of which the first and the last are those of a block.
-/
theorem tls_accepts_blocks :
    (∀ s, tlsCert s = .ok () ↔ s = "" ∨ IsBlock "CERTIFICATE" s) ∧
      (∀ s, tlsCa s = .ok () ↔ s = "" ∨ IsBlock "CERTIFICATE" s) ∧
      (∀ s, tlsKey s = .ok () ↔ s = "" ∨ IsBlock "PRIVATE KEY" s) ∧
      ∀ (lines : List String) (current : String),
        lines ≠ [] → (∀ line ∈ lines, '\n' ∉ line.toList) →
          (tlsCert (Terminal.linesValue lines current) = .ok () ↔
            (∃ only, lines = [only] ∧ Text.trim only = "-") ∨ IsFramed "CERTIFICATE" lines) := by
  have plain : '\n' ∉ "CERTIFICATE".toList := by decide
  refine ⟨fun _ => orEmpty_pem_eq_ok_iff, fun _ => orEmpty_pem_eq_ok_iff,
    fun _ => orEmpty_pem_eq_ok_iff, ?_⟩
  intro lines current typed single
  exact typed_pem_eq_ok_iff plain typed single current

/-- Two frames with nothing inside, one behind the other, are one block. -/
def bundleLines : List String :=
  ["-----BEGIN CERTIFICATE-----", "-----END CERTIFICATE-----", "-----BEGIN CERTIFICATE-----",
    "-----END CERTIFICATE-----"]

theorem tls_accepts_bundle :
    bundleLines ≠ [] ∧ (∀ line ∈ bundleLines, '\n' ∉ line.toList) ∧
      tlsCert (Terminal.linesValue bundleLines "") = .ok () := by
  have typed : bundleLines ≠ [] := List.cons_ne_nil _ _
  have single : ∀ line ∈ bundleLines, '\n' ∉ line.toList := by decide
  have framed : IsFramed "CERTIFICATE" bundleLines := ⟨by decide, rfl, rfl⟩
  obtain ⟨_, _, _, lines⟩ := tls_accepts_blocks
  exact ⟨typed, single, (lines bundleLines "" typed single).2 (.inr framed)⟩

end InstallerSetup.Rule
