import InstallerSetup.KeyMap
import Mathlib.Data.List.Nodup

/-!
# Building maps from entries

Inserting the entries of a map one after the other, in their order, builds that map again
(`foldl_insert`). The keys of a built map are the keys that were inserted (`mem_keys_ofList`). An
entry of a map is what its key is looked up as (`mem_entries_iff`).
-/

namespace InstallerSetup

variable {α : Type}

/-- An entry whose key is above all others is put at the end. -/
theorem insertEntry_of_above {key : String} {entries : List (String × α)}
    (above : ∀ entry ∈ entries, entry.1 < key) (value : α) :
    insertEntry key value entries = entries ++ [(key, value)] := by
  induction entries with
  | nil => rfl
  | cons head rest ih =>
      obtain ⟨k, v⟩ := head
      have less : k < key := above (k, v) List.mem_cons_self
      have rest_above : ∀ entry ∈ rest, entry.1 < key := fun entry member =>
        above entry (List.mem_cons_of_mem _ member)
      unfold insertEntry
      rw [if_neg (String.not_lt.2 (Std.le_of_lt less)), if_neg (Std.ne_of_lt less).symm,
        ih rest_above, List.cons_append]

namespace KeyMap

theorem ext {m n : KeyMap α} (same : m.entries = n.entries) : m = n := by
  cases m
  cases n
  cases same
  rfl

/-- Entries that follow those of a map in their order are added behind them. -/
theorem entries_foldl_insert (m : KeyMap α) (rest : List (String × α))
    (increasing : Increasing (m.entries ++ rest)) :
    (rest.foldl (fun m entry => m.insert entry.1 entry.2) m).entries = m.entries ++ rest := by
  induction rest generalizing m with
  | nil => exact (List.append_nil _).symm
  | cons head rest ih =>
      have above : ∀ entry ∈ m.entries, entry.1 < head.1 := fun entry member =>
        (List.pairwise_append.1 increasing).2.2 entry member head List.mem_cons_self
      have added : (m.insert head.1 head.2).entries = m.entries ++ [head] :=
        insertEntry_of_above above head.2
      have further : Increasing ((m.insert head.1 head.2).entries ++ rest) := by
        rw [added, List.append_assoc]
        exact increasing
      rw [List.foldl_cons, ih _ further, added, List.append_assoc]
      rfl

/-- Inserting the entries of a map one after the other builds the map. -/
theorem foldl_insert (m : KeyMap α) :
    m.entries.foldl (fun n entry => n.insert entry.1 entry.2) empty = m :=
  ext (entries_foldl_insert empty m.entries m.increasing)

/-- The keys of a map increase. -/
theorem pairwise_keys (m : KeyMap α) : m.keys.Pairwise (· < ·) := List.pairwise_map.2 m.increasing

/-- An entry of a map is what its key is looked up as. -/
theorem mem_entries_iff {m : KeyMap α} {key : String} {value : α} :
    (key, value) ∈ m.entries ↔ m.get? key = some value := by
  unfold get?
  constructor
  · intro member
    have listed : ∃ entry ∈ m.entries, (entry.1 == key) = true :=
      ⟨(key, value), member, beq_self_eq_true key⟩
    obtain ⟨entry, found⟩ := Option.isSome_iff_exists.1 (List.find?_isSome.2 listed)
    have named := List.find?_some found
    have distinct : (m.entries.map Prod.fst).Nodup := m.pairwise_keys.imp Std.ne_of_lt
    obtain rfl : entry = (key, value) := List.inj_on_of_nodup_map distinct
      (List.mem_of_find?_eq_some found) member (eq_of_beq named)
    rw [found]
    rfl
  · intro lookup
    obtain ⟨entry, found, rfl⟩ := Option.map_eq_some_iff.1 lookup
    have named := List.find?_some found
    obtain rfl : entry.1 = key := eq_of_beq named
    exact List.mem_of_find?_eq_some found

theorem mem_keys_iff {m : KeyMap α} {key : String} :
    key ∈ m.keys ↔ ∃ value, m.get? key = some value := by
  simp [keys, ← mem_entries_iff]

theorem mem_keys_insert {m : KeyMap α} {key other : String} {value : α} :
    other ∈ (m.insert key value).keys ↔ other = key ∨ other ∈ m.keys := by
  rw [mem_keys_iff, mem_keys_iff, get?_insert]
  by_cases same : key = other
  · simp [same]
  · simp [same, Ne.symm same]

theorem mem_keys_foldl_insert {key : String} (entries : List (String × α)) (m : KeyMap α) :
    key ∈ (entries.foldl (fun n entry => n.insert entry.1 entry.2) m).keys ↔
      key ∈ entries.map Prod.fst ∨ key ∈ m.keys := by
  induction entries generalizing m with
  | nil => simp
  | cons head rest ih =>
      rw [List.foldl_cons, ih, mem_keys_insert, List.map_cons, List.mem_cons, or_left_comm,
        or_assoc]

/-- The keys of a built map are those of its entries. -/
theorem mem_keys_ofList {key : String} {entries : List (String × α)} :
    key ∈ (ofList entries).keys ↔ key ∈ entries.map Prod.fst := by
  refine (mem_keys_foldl_insert entries empty).trans ⟨fun found => ?_, .inl⟩
  rcases found with found | impossible
  · exact found
  · cases impossible

/-- If entries are inserted from the back, the first one with a key counts. -/
theorem get?_ofList_reverse (entries : List (String × α)) (key : String) :
    (ofList entries.reverse).get? key =
      (entries.find? fun entry => entry.1 == key).map Prod.snd := by
  induction entries with
  | nil => rfl
  | cons head rest ih =>
      have last : ofList (head :: rest).reverse = (ofList rest.reverse).insert head.1 head.2 := by
        unfold ofList
        rw [List.reverse_cons, List.foldl_append]
        rfl
      rw [last, get?_insert, ih, List.find?_cons]
      by_cases same : head.1 = key
      · rw [if_pos same, same, beq_self_eq_true]
        rfl
      · rw [if_neg same, beq_false_of_ne same]

end KeyMap

end InstallerSetup
