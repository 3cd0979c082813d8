import InstallerSetup.Form.Completion

/-!
# Lists in one text

A list is shown as one text with commas between its entries, and an answer is cut at its commas.
Cutting gives back the list that was shown exactly if all its entries are plain (`IsPlainEntry`),
and it never gives others (`listEntries_round_trip`).
-/

namespace InstallerSetup.Form

def IsPlainEntry (entry : String) : Prop :=
  entry ≠ "" ∧ ',' ∉ entry.toList ∧ Text.trim entry = entry

theorem toList_intercalate (list : List String) :
    (",".intercalate list).toList = Text.join ',' (list.map String.toList) :=
  Text.toList_intercalate rfl list

theorem intercalate_eq_empty_iff {list : List String} :
    ",".intercalate list = "" ↔ list = [] ∨ list = [""] := by
  rw [← String.toList_eq_nil_iff, toList_intercalate, Text.join_eq_nil_iff, List.map_eq_nil_iff]
  refine or_congr_right ?_
  simp [List.map_eq_cons_iff]

theorem isPlainEntry_of_mem_listEntries {text entry : String} (member : entry ∈ listEntries text) :
    IsPlainEntry entry := by
  obtain ⟨piece, kept, rfl⟩ := List.mem_map.1 member
  obtain ⟨trimmed, filled⟩ := List.mem_filter.1 kept
  obtain ⟨cut, within, rfl⟩ := List.mem_map.1 trimmed
  refine ⟨?_, ?_, ?_⟩
  · simpa using filled
  · rw [String.toList_ofList]
    exact fun comma => Text.not_mem_of_mem_pieces within (Text.mem_of_mem_trimChars comma)
  · rw [Text.trim, String.toList_ofList, Text.trimChars_trimChars]

theorem IsPlainEntry.trimChars_toList {entry : String} (plain : IsPlainEntry entry) :
    Text.trimChars entry.toList = entry.toList := by
  have trimmed := congrArg String.toList plain.2.2
  rwa [Text.trim, String.toList_ofList] at trimmed

theorem listEntries_intercalate {list : List String} (plain : ∀ entry ∈ list, IsPlainEntry entry) :
    listEntries (",".intercalate list) = list := by
  by_cases empty : list = []
  · rw [empty]
    rfl
  · have cut : Text.pieces ',' (",".intercalate list).toList = list.map String.toList := by
      rw [toList_intercalate]
      refine Text.pieces_join (mt List.map_eq_nil_iff.1 empty) fun text member => ?_
      obtain ⟨entry, listed, rfl⟩ := List.mem_map.1 member
      exact (plain entry listed).2.1
    have trimmed : (list.map String.toList).map Text.trimChars = list.map String.toList := by
      rw [List.map_map]
      exact List.map_congr_left fun entry listed => (plain entry listed).trimChars_toList
    have kept : (list.map String.toList).filter (fun piece => !piece.isEmpty) =
        list.map String.toList := by
      refine List.filter_eq_self.2 fun text member => ?_
      obtain ⟨entry, listed, rfl⟩ := List.mem_map.1 member
      simpa using (plain entry listed).1
    rw [listEntries, cut, trimmed, kept, List.map_map]
    exact (List.map_congr_left fun entry _ => String.ofList_toList).trans (List.map_id' list)

/-- A list comes back as it was exactly if all its entries are plain. -/
theorem listEntries_intercalate_eq_iff {list : List String} :
    listEntries (",".intercalate list) = list ↔ ∀ entry ∈ list, IsPlainEntry entry := by
  constructor
  · intro same entry member
    rw [← same] at member
    exact isPlainEntry_of_mem_listEntries member
  · exact listEntries_intercalate

theorem isPlainEntry_iff {entry : String} :
    IsPlainEntry entry ↔
      entry ≠ "" ∧ ',' ∉ entry.toList ∧ Text.HasVisibleEnds entry.toList :=
  and_congr_right fun _ => and_congr_right fun _ => Text.trim_eq_self_iff

/--
A form begins with the jump hosts of its document in one text. Cutting this text gives them back
exactly if none is empty, holds a comma or has a blank end, and whatever text is cut, its entries
are such, so that they are shown and cut again without a change.
-/
theorem listEntries_round_trip (list : List String) (text : String) :
    (∀ (config : Config) (flags : Flags),
      let aws := { config.aws with jumpHostWhitelist := list }
      (State.start { config with aws := aws } flags).scratch.jumpHostWhitelist =
        ",".intercalate list) ∧
      (listEntries (",".intercalate list) = list ↔
        ∀ entry ∈ list,
          entry ≠ "" ∧ ',' ∉ entry.toList ∧ Text.HasVisibleEnds entry.toList) ∧
      (∀ entry ∈ listEntries text,
        entry ≠ "" ∧ ',' ∉ entry.toList ∧ Text.HasVisibleEnds entry.toList) ∧
      listEntries (",".intercalate (listEntries text)) = listEntries text := by
  refine ⟨fun _ _ => rfl, ?_, ?_, ?_⟩
  · rw [listEntries_intercalate_eq_iff]
    exact forall₂_congr fun _ _ => isPlainEntry_iff
  · intro entry member
    exact isPlainEntry_iff.1 (isPlainEntry_of_mem_listEntries member)
  · exact listEntries_intercalate fun _ member => isPlainEntry_of_mem_listEntries member

/-- Blanks inside an entry stay, and the only entry of a list does not come back if it is empty. -/
example :
    listEntries (",".intercalate ["a b", "c"]) = ["a b", "c"] ∧
      listEntries (",".intercalate [""]) = [] := by
  decide +kernel

/-! ## Texts that keep the list when they are empty -/

def entriesOr (kept : List String) (text : String) : List String :=
  if text = "" then kept else listEntries text

/-- An empty text does not empty a list. -/
theorem entriesOr_eq_listEntries_iff {kept : List String} {text : String} :
    entriesOr kept text = listEntries text ↔ text ≠ "" ∨ kept = [] := by
  by_cases empty : text = ""
  · have none : listEntries "" = [] := listEntries_intercalate (List.forall_mem_nil _)
    rw [entriesOr, if_pos empty, empty, none]
    exact (or_iff_right (not_not_intro rfl)).symm
  · rw [entriesOr, if_neg empty]
    exact iff_of_true rfl (.inl empty)

/-- A list whose text is taken for an answer comes back as it was if its entries are plain. -/
theorem entriesOr_intercalate_eq_iff {list : List String} :
    entriesOr list (",".intercalate list) = list ↔
      list = [""] ∨ ∀ entry ∈ list, IsPlainEntry entry := by
  by_cases empty : ",".intercalate list = ""
  · rw [entriesOr, if_pos empty]
    refine iff_of_true rfl ?_
    rcases intercalate_eq_empty_iff.1 empty with rfl | single
    · exact .inr (List.forall_mem_nil _)
    · exact .inl single
  · rw [entriesOr, if_neg empty, listEntries_intercalate_eq_iff]
    exact (or_iff_right fun single => empty (intercalate_eq_empty_iff.2 (.inr single))).symm

end InstallerSetup.Form
