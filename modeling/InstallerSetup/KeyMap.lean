/-!
# Maps from texts

A `KeyMap` is a list of entries whose keys increase, by the order of their characters. So it has at
most one entry for a key, and two maps with the same entries are equal. `get?_insert` says what
insertion does to look-up.
-/

namespace InstallerSetup

variable {α β : Type}

/-- Adds an entry at its place in a list with increasing keys, or replaces the one with its key. -/
def insertEntry (key : String) (value : α) : List (String × α) → List (String × α)
  | [] => [(key, value)]
  | (k, v) :: rest =>
      if key < k then (key, value) :: (k, v) :: rest
      else if key = k then (key, value) :: rest
      else (k, v) :: insertEntry key value rest

theorem mem_insertEntry {key : String} {value : α} {entries : List (String × α)}
    {entry : String × α} (h : entry ∈ insertEntry key value entries) :
    entry = (key, value) ∨ entry ∈ entries := by
  induction entries with
  | nil => exact .inl (by simpa [insertEntry] using h)
  | cons head rest ih =>
      obtain ⟨k, v⟩ := head
      unfold insertEntry at h
      split at h
      · simpa using h
      · split at h
        · rcases List.mem_cons.1 h with h | h
          · exact .inl h
          · exact .inr (List.mem_cons_of_mem _ h)
        · rcases List.mem_cons.1 h with h | h
          · exact .inr (h ▸ List.mem_cons_self)
          · rcases ih h with h | h
            · exact .inl h
            · exact .inr (List.mem_cons_of_mem _ h)

def Increasing (entries : List (String × α)) : Prop :=
  entries.Pairwise fun a b => a.1 < b.1

theorem increasing_insertEntry (key : String) (value : α) {entries : List (String × α)}
    (h : Increasing entries) : Increasing (insertEntry key value entries) := by
  induction entries with
  | nil => exact List.pairwise_singleton _ _
  | cons head rest ih =>
      obtain ⟨k, v⟩ := head
      have ⟨above, tail⟩ := List.pairwise_cons.1 h
      unfold insertEntry
      split
      · next less =>
          refine List.pairwise_cons.2 ⟨fun entry member => ?_, h⟩
          rcases List.mem_cons.1 member with rfl | member
          · exact less
          · exact String.lt_trans less (above entry member)
      · next notLess =>
          split
          · next same =>
              exact List.pairwise_cons.2 ⟨fun entry member => same ▸ above entry member, tail⟩
          · next different =>
              refine List.pairwise_cons.2 ⟨fun entry member => ?_, ih tail⟩
              rcases mem_insertEntry member with rfl | member
              · exact Std.lt_of_le_of_ne (String.not_lt.1 notLess) (Ne.symm different)
              · exact above entry member

structure KeyMap (α : Type) where
  entries : List (String × α)
  increasing : Increasing entries

namespace KeyMap

instance [Repr α] : Repr (KeyMap α) := ⟨fun m n => reprPrec m.entries n⟩

instance [DecidableEq α] : DecidableEq (KeyMap α) := fun m n =>
  decidable_of_iff (m.entries = n.entries)
    ⟨fun h => by cases m; cases n; cases h; rfl, fun h => h ▸ rfl⟩

def empty : KeyMap α := ⟨[], .nil⟩

instance : Inhabited (KeyMap α) := ⟨empty⟩

def insert (m : KeyMap α) (key : String) (value : α) : KeyMap α :=
  ⟨insertEntry key value m.entries, increasing_insertEntry key value m.increasing⟩

def isEmpty (m : KeyMap α) : Bool := m.entries.isEmpty

def size (m : KeyMap α) : Nat := m.entries.length

def keys (m : KeyMap α) : List String := m.entries.map Prod.fst

def get? (m : KeyMap α) (key : String) : Option α :=
  (m.entries.find? fun entry => entry.1 == key).map Prod.snd

def contains (m : KeyMap α) (key : String) : Bool := m.entries.any fun entry => entry.1 == key

/-- A map of the given entries; the last one with a key counts. -/
def ofList (entries : List (String × α)) : KeyMap α :=
  entries.foldl (fun m (key, value) => m.insert key value) empty

theorem find?_insertEntry (key other : String) (value : α) (entries : List (String × α)) :
    ((insertEntry key value entries).find? fun entry => entry.1 == other).map Prod.snd =
      if key = other then some value
      else (entries.find? fun entry => entry.1 == other).map Prod.snd := by
  induction entries with
  | nil => by_cases h : key = other <;> simp [insertEntry, h]
  | cons head rest ih =>
      obtain ⟨k, v⟩ := head
      unfold insertEntry
      split
      · by_cases h : key = other <;> simp [List.find?_cons, h]
      · split
        · next same =>
            subst same
            by_cases h : key = other <;> simp [h]
        · next different =>
            by_cases hk : k = other
            · subst hk
              simp [different]
            · simpa [List.find?_cons, hk] using ih

/-- Look-up after an insertion finds the new entry under its key and the old ones elsewhere. -/
theorem get?_insert (m : KeyMap α) (key other : String) (value : α) :
    (m.insert key value).get? other = if key = other then some value else m.get? other :=
  find?_insertEntry key other value m.entries

end KeyMap

end InstallerSetup
