import InstallerSetup.Text.Utf8
import Mathlib.Tactic.SplitIfs
import Mathlib.Data.String.Basic

/-!
# The bytes of a text

What a text is encoded as decodes as that text (`decode?_encode`), because the bytes of a character
are passed over one after the other (`firstMalformed?_char`). The order of texts is that of their
bytes (`encode_lt_encode_iff`). A text has at least as many bytes as characters, and as many if it
is ASCII (`length_le_utf8ByteSize`, `utf8ByteSize_of_ascii`).
-/

namespace InstallerSetup.Text

open String (utf8EncodeChar)

/-! ## Texts as lists of bytes -/

theorem toList_loop (bytes : ByteArray) (i : Nat) (read : List UInt8) :
    ByteArray.toList.loop bytes i read = read.reverse ++ bytes.data.toList.drop i := by
  fun_induction ByteArray.toList.loop bytes i read with
  | case1 i read bound ih =>
      have inside : i < bytes.data.toList.length := bound
      rw [ih, List.drop_eq_getElem_cons inside, List.reverse_cons, List.append_assoc,
        List.singleton_append]
      simp [ByteArray.get!, bound]
  | case2 i read beyond =>
      have outside : bytes.data.toList.length ≤ i := Nat.le_of_not_lt beyond
      rw [List.drop_eq_nil_of_le outside, List.append_nil]

theorem toList_eq (bytes : ByteArray) : bytes.toList = bytes.data.toList := by
  unfold ByteArray.toList
  rw [toList_loop]
  rfl

theorem encode_eq (s : String) : encode s = s.toList.flatMap utf8EncodeChar := by
  unfold encode
  rw [toList_eq]
  conv => lhs; rw [← String.ofList_toList (s := s)]
  exact List.toList_data_toByteArray

/-! ## Leading bytes -/

section

variable (lead : UInt8) (index : Nat)

theorem ofLead?_one (single : lead.toNat < 0x80) : Pending.ofLead? lead index = some .none :=
  if_pos single

theorem ofLead?_two (lower : 0xC2 ≤ lead.toNat) (upper : lead.toNat ≤ 0xDF) :
    Pending.ofLead? lead index = some ⟨1, index, 0x80, 0xBF⟩ := by
  unfold Pending.ofLead?
  simp only [UInt8.lt_iff_toNat_lt, UInt8.le_iff_toNat_le, ← UInt8.toNat_inj, Bool.and_eq_true,
    decide_eq_true_iff, UInt8.reduceToNat]
  grind

theorem ofLead?_three (lower : 0xE0 ≤ lead.toNat) (upper : lead.toNat ≤ 0xEF) :
    Pending.ofLead? lead index =
      some ⟨2, index, if lead.toNat = 0xE0 then 0xA0 else 0x80,
        if lead.toNat = 0xED then 0x9F else 0xBF⟩ := by
  unfold Pending.ofLead?
  simp only [UInt8.lt_iff_toNat_lt, UInt8.le_iff_toNat_le, ← UInt8.toNat_inj, Bool.and_eq_true,
    decide_eq_true_iff, UInt8.reduceToNat]
  grind

theorem ofLead?_four (lower : 0xF0 ≤ lead.toNat) (upper : lead.toNat ≤ 0xF4) :
    Pending.ofLead? lead index =
      some ⟨3, index, if lead.toNat = 0xF0 then 0x90 else 0x80,
        if lead.toNat = 0xF4 then 0x8F else 0xBF⟩ := by
  unfold Pending.ofLead?
  simp only [UInt8.lt_iff_toNat_lt, UInt8.le_iff_toNat_le, ← UInt8.toNat_inj, Bool.and_eq_true,
    decide_eq_true_iff, UInt8.reduceToNat]
  grind

end

/-! ## Characters -/

/-- A leading byte begins a sequence. -/
theorem firstMalformed?_lead {pending next : Pending} {lead : UInt8} {index : Nat}
    (free : pending.missing = 0) (begun : Pending.ofLead? lead index = some next)
    (rest : List UInt8) :
    firstMalformed? pending index (lead :: rest) = firstMalformed? next (index + 1) rest := by
  rw [firstMalformed?, free]
  simp only [begun]

/-- A byte within its bounds goes on with a sequence. -/
theorem firstMalformed?_further {missing start : Nat} {low high byte : UInt8}
    (lower : low.toNat ≤ byte.toNat) (upper : byte.toNat ≤ high.toNat) (index : Nat)
    (rest : List UInt8) :
    firstMalformed? ⟨missing + 1, start, low, high⟩ index (byte :: rest) =
      firstMalformed? ⟨missing, start, 0x80, 0xBF⟩ (index + 1) rest := by
  have within : (decide (low ≤ byte) && decide (byte ≤ high)) = true := by
    rw [Bool.and_eq_true, decide_eq_true_iff, decide_eq_true_iff]
    exact ⟨lower, upper⟩
  rw [firstMalformed?]
  exact if_pos within

/-- The bytes of a character are passed over. -/
theorem firstMalformed?_char {pending : Pending} (free : pending.missing = 0) (c : Char)
    (index : Nat) (rest : List UInt8) :
    ∃ next later, next.missing = 0 ∧
      firstMalformed? pending index (utf8EncodeChar c ++ rest) =
        firstMalformed? next later rest := by
  have scalar : c.val.toNat < 0xD800 ∨ 0xDFFF < c.val.toNat ∧ c.val.toNat < 0x110000 := c.valid
  unfold utf8EncodeChar
  generalize c.val.toNat = v at scalar
  simp only
  -- one, two, three or four bytes; the second of three or four is the one with narrower bounds
  split
  · have lead := ofLead?_one (.ofNat v) index (by simp; omega)
    exact ⟨.none, index + 1, rfl, firstMalformed?_lead free lead rest⟩
  split
  · have lead := ofLead?_two (.ofNat (v / 64 % 0x20 + 0xC0)) index
      (by simp; omega) (by simp; omega)
    refine ⟨⟨0, index, 0x80, 0xBF⟩, index + 2, rfl, ?_⟩
    refine (firstMalformed?_lead free lead _).trans ?_
    exact firstMalformed?_further (by simp; omega) (by simp; omega) _ _
  split
  · have lead := ofLead?_three (.ofNat (v / 4096 % 0x10 + 0xE0)) index
      (by simp; omega) (by simp; omega)
    refine ⟨⟨0, index, 0x80, 0xBF⟩, index + 3, rfl, ?_⟩
    refine (firstMalformed?_lead free lead _).trans ?_
    refine (firstMalformed?_further ?_ ?_ _ _).trans ?_
    · split <;> simp at * <;> omega
    · split <;> simp at * <;> omega
    · exact firstMalformed?_further (by simp; omega) (by simp; omega) _ _
  · have lead := ofLead?_four (.ofNat (v / 262144 % 0x08 + 0xF0)) index
      (by simp; omega) (by simp; omega)
    refine ⟨⟨0, index, 0x80, 0xBF⟩, index + 4, rfl, ?_⟩
    refine (firstMalformed?_lead free lead _).trans ?_
    refine (firstMalformed?_further ?_ ?_ _ _).trans ?_
    · split <;> simp at * <;> omega
    · split <;> simp at * <;> omega
    · refine (firstMalformed?_further ?_ ?_ _ _).trans ?_
      · simp; omega
      · simp; omega
      · exact firstMalformed?_further (by simp; omega) (by simp; omega) _ _

theorem firstMalformed?_chars {pending : Pending} (free : pending.missing = 0) (chars : List Char)
    (index : Nat) : firstMalformed? pending index (chars.flatMap utf8EncodeChar) = none := by
  induction chars generalizing pending index with
  | nil => exact if_pos free
  | cons c chars ih =>
      obtain ⟨next, later, free', passed⟩ :=
        firstMalformed?_char free c index (chars.flatMap utf8EncodeChar)
      rw [List.flatMap_cons, passed]
      exact ih free' later

/-- The bytes of a text decode as that text. -/
theorem decode?_encode (s : String) : decode? (encode s) = .ok s := by
  have whole : ByteArray.mk (encode s).toArray = s.toByteArray := by
    unfold encode
    rw [toList_eq, Array.toArray_toList]
    rfl
  have read : String.fromUTF8? s.toByteArray = some s := dif_pos s.isValidUTF8
  have sound : firstMalformed? .none 0 (encode s) = none := by
    rw [encode_eq]
    exact firstMalformed?_chars rfl s.toList 0
  unfold decode?
  rw [sound, whole, read]
  rfl

/-! ## The order of bytes -/

/-- The digits of a number decide its place, the greatest of them first. -/
theorem digits_lt {v w : Nat} (less : v < w) :
    v / 262144 < w / 262144 ∨ v / 262144 = w / 262144 ∧
      (v / 4096 % 64 < w / 4096 % 64 ∨ v / 4096 % 64 = w / 4096 % 64 ∧
        (v / 64 % 64 < w / 64 % 64 ∨ v / 64 % 64 = w / 64 % 64 ∧ v % 64 < w % 64)) := by
  omega

/-- The bytes of characters are in the order of the characters, whatever follows them. -/
theorem utf8EncodeChar_lt {c d : Char} (less : c < d) (rest rest' : List UInt8) :
    utf8EncodeChar c ++ rest < utf8EncodeChar d ++ rest' := by
  have scalar : c.val.toNat < 0xD800 ∨ 0xDFFF < c.val.toNat ∧ c.val.toNat < 0x110000 := c.valid
  have scalar' : d.val.toNat < 0xD800 ∨ 0xDFFF < d.val.toNat ∧ d.val.toNat < 0x110000 := d.valid
  have less' : c.val.toNat < d.val.toNat := less
  unfold utf8EncodeChar
  generalize c.val.toNat = v at *
  generalize d.val.toNat = w at *
  have further (k : Nat) : (k % 64 + 128) % 256 = k % 64 + 128 := by omega
  have leading : (v / 262144 % 8 + 240) % 256 = v / 262144 + 240 := by omega
  have leading' : (w / 262144 % 8 + 240) % 256 = w / 262144 + 240 := by omega
  have digits := digits_lt less'
  simp only
  split_ifs
  all_goals
    simp only [List.cons_append, List.nil_append, List.cons_lt_cons_iff, UInt8.lt_iff_toNat_lt,
      ← UInt8.toNat_inj, UInt8.toNat_ofNat', further, leading, leading']
    clear further leading leading'
    omega

theorem flatMap_utf8EncodeChar_lt {chars chars' : List Char} (less : chars < chars') :
    chars.flatMap utf8EncodeChar < chars'.flatMap utf8EncodeChar := by
  induction chars generalizing chars' with
  | nil =>
      cases chars' with
      | nil => exact absurd less (List.not_lt_nil _)
      | cons d chars' =>
          obtain ⟨byte, bytes, some_bytes⟩ :=
            List.exists_cons_of_ne_nil (String.utf8EncodeChar_ne_nil (c := d))
          rw [List.flatMap_cons, some_bytes]
          exact List.nil_lt_cons _ _
  | cons c chars ih =>
      cases chars' with
      | nil => exact absurd less (List.not_lt_nil _)
      | cons d chars' =>
          rw [List.flatMap_cons, List.flatMap_cons]
          rcases List.cons_lt_cons_iff.1 less with before | ⟨rfl, behind⟩
          · exact utf8EncodeChar_lt before _ _
          · exact List.append_left_lt (ih behind)

/-- Texts are ordered as their bytes are. -/
theorem encode_lt_encode_iff {s t : String} : encode s < encode t ↔ s < t := by
  have order (s t : String) (less : s < t) : encode s < encode t := by
    rw [encode_eq, encode_eq]
    exact flatMap_utf8EncodeChar_lt less
  refine ⟨fun less => ?_, order s t⟩
  rcases lt_trichotomy s t with before | rfl | behind
  · exact before
  · exact absurd less (List.lt_irrefl _)
  · exact absurd (List.lt_trans less (order t s behind)) (List.lt_irrefl _)

/-! ## Sizes -/

theorem length_le_utf8Len (chars : List Char) : chars.length ≤ String.utf8Len chars := by
  induction chars with
  | nil => exact Nat.le_refl 0
  | cons c chars ih => exact Nat.add_le_add ih c.utf8Size_pos

theorem utf8Len_of_ascii {chars : List Char} (ascii : ∀ c ∈ chars, c.toNat < 128) :
    String.utf8Len chars = chars.length := by
  induction chars with
  | nil => rfl
  | cons c chars ih =>
      obtain ⟨first, later⟩ := List.forall_mem_cons.1 ascii
      have single : c.utf8Size = 1 :=
        Char.utf8Size_eq_one_iff.2 (UInt32.le_iff_toNat_le.2 (Nat.le_of_lt_succ first))
      rw [String.utf8Len_cons, ih later, single, List.length_cons]

theorem length_le_utf8ByteSize (s : String) : s.length ≤ s.utf8ByteSize := by
  rw [← String.utf8Len_toList, ← String.length_toList]
  exact length_le_utf8Len s.toList

theorem utf8ByteSize_of_ascii {s : String} (ascii : ∀ c ∈ s.toList, c.toNat < 128) :
    s.utf8ByteSize = s.length := by
  rw [← String.utf8Len_toList, ← String.length_toList]
  exact utf8Len_of_ascii ascii

end InstallerSetup.Text
