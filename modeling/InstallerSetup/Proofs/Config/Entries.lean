import Mathlib.Data.List.Pairwise
import InstallerSetup.Proofs.Config.Record

/-!
# The entries of a mapping and the record that is read

Whether a mapping can be read as a record does not depend on the record that reading begins with
(`Record.Readable`), so entries can be left out, put in and replaced one by one
(`Record.Readable.of_edited`). A value under an unknown key is found in the record that has been
read, and where the record is written it stands under the same key (`Record.lookup?_of_unknown`).
-/

namespace InstallerSetup.Config

open InstallerSetup.Yaml (Tree Mismatch)

def knownKeys (σ : Type) [Record σ] : List String :=
  (Record.attributes : List (Attribute σ)).map Attribute.key

/-- Whether a key is a text among the given ones, whatever tags stand around it. -/
def isOneOf (keys : List String) (keyTree : Tree) : Bool :=
  match Record.keyText keyTree with
  | .ok key => keys.contains key
  | .error _ => false

theorem isOneOf_singleton_iff {key : String} {keyTree : Tree} :
    isOneOf [key] keyTree = true ↔ Record.keyText keyTree = .ok key := by
  unfold isOneOf
  cases Record.keyText keyTree <;> simp

/-- Keeps some entries of a mapping and edits their values; the tags around the mapping stay. -/
def editEntries (keeps : Tree → Bool) (edit : Tree → Tree → Tree) : Tree → Tree
  | .mapping entries =>
      .mapping ((entries.filter fun entry => keeps entry.1).map fun entry =>
        (entry.1, edit entry.1 entry.2))
  | .tagged tag value => .tagged tag (editEntries keeps edit value)
  | tree => tree

theorem untagged_editEntries (keeps : Tree → Bool) (edit : Tree → Tree → Tree) :
    (tree : Tree) →
      (editEntries keeps edit tree).untagged = editEntries keeps edit tree.untagged
  | .tagged _ value => untagged_editEntries keeps edit value
  | .null | .bool _ | .int _ | .float _ | .string _ | .sequence _ | .mapping _ => rfl

def editAt (key : String) (edit : Tree → Tree) : Tree → Tree :=
  editEntries (fun _ => true) fun keyTree value =>
    if isOneOf [key] keyTree then edit value else value

namespace Record

variable {σ : Type} [Record σ]

theorem attribute?_eq_none_iff {key : String} :
    (attribute? key : Option (Attribute σ)) = none ↔ key ∉ knownKeys σ := by
  unfold attribute? knownKeys
  rw [List.find?_eq_none]
  constructor
  · intro absent member
    obtain ⟨a, listed, rfl⟩ := List.mem_map.1 member
    exact absent a listed (beq_self_eq_true a.key)
  · intro absent a listed same
    exact absent (List.mem_map.2 ⟨a, listed, eq_of_beq same⟩)

def IsUnknown (σ : Type) [Record σ] (entry : Tree × Tree) : Prop :=
  ∃ key, keyText entry.1 = .ok key ∧ (attribute? key : Option (Attribute σ)) = none ∧
    entry.2.hasTag = false

/-! ## Which mappings can be read -/

/-- The entries of a mapping can be read, after some known keys, and with some in the end. -/
inductive Readable (σ : Type) [Record σ] :
    List (Tree × Tree) → List String → List String → Prop where
  | nil {seen : List String} : Readable σ [] seen seen
  | known {keyTree value : Tree} {rest : List (Tree × Tree)} {seen seen' : List String}
      {key : String} {a : Attribute σ} {update : σ → σ} (named : keyText keyTree = .ok key)
      (found : attribute? key = some a) (unseen : key ∉ seen)
      (updated : a.read value = .ok update) (later : Readable σ rest (key :: seen) seen') :
      Readable σ ((keyTree, value) :: rest) seen seen'
  | unknown {entry : Tree × Tree} {rest : List (Tree × Tree)} {seen seen' : List String}
      (plain : IsUnknown σ entry) (later : Readable σ rest seen seen') :
      Readable σ (entry :: rest) seen seen'

theorem readable_of_readEntries {entries : List (Tree × Tree)} {seen seen' : List String}
    {s t : σ} (read : readEntries entries seen s = .ok (seen', t)) :
    Readable σ entries seen seen' := by
  induction entries generalizing seen s with
  | nil =>
      cases read
      exact .nil
  | cons entry rest ih =>
      obtain ⟨key, named, ⟨a, update, found, unseen, updated, later⟩ | ⟨absent, plain, later⟩⟩ :=
        readEntries_cons read
      · exact .known named found unseen updated (ih later)
      · exact .unknown ⟨key, named, absent, plain⟩ (ih later)

theorem Readable.readEntries_eq {entries : List (Tree × Tree)} {seen seen' : List String}
    (readable : Readable σ entries seen seen') (s : σ) :
    ∃ t, readEntries entries seen s = .ok (seen', t) := by
  induction readable generalizing s with
  | nil => exact ⟨s, rfl⟩
  | known named found unseen updated _ ih =>
      obtain ⟨t, read⟩ := ih _
      refine ⟨t, ?_⟩
      rw [readEntries, named]
      simp only [found, updated, List.contains_iff_mem, unseen, if_false]
      exact read
  | unknown plain _ ih =>
      obtain ⟨key, named, absent, tagless⟩ := plain
      obtain ⟨t, read⟩ := ih _
      refine ⟨t, ?_⟩
      rw [readEntries, named]
      simp only [absent, tagless, Bool.false_eq_true, if_false]
      exact read

/-- Which trees can be read as a record. -/
theorem exists_ofTree?_iff {tree : Tree} :
    (∃ s : σ, ofTree? tree = .ok s) ↔
      ∃ entries seen,
        (tree.untagged = .mapping entries ∨ tree.untagged = .null ∧ entries = []) ∧
          Readable σ entries [] seen ∧ missing? σ seen = none := by
  have complete (entries : List (Tree × Tree)) :
      (∃ s : σ, ofTree? (.mapping entries) = .ok s) ↔
        ∃ seen, Readable σ entries [] seen ∧ missing? σ seen = none := by
    simp only [ofTree?_mapping_eq_ok_iff]
    constructor
    · rintro ⟨s, seen, read, whole⟩
      exact ⟨seen, readable_of_readEntries read, whole⟩
    · rintro ⟨seen, readable, whole⟩
      obtain ⟨t, read⟩ := readable.readEntries_eq fresh
      exact ⟨t, seen, read, whole⟩
  unfold ofTree?
  cases shape : tree.untagged with
  | mapping entries =>
      refine (complete entries).trans ⟨?_, ?_⟩
      · rintro ⟨seen, found⟩
        exact ⟨entries, seen, .inl rfl, found⟩
      · rintro ⟨others, seen, same | ⟨impossible, _⟩, found⟩
        · cases same
          exact ⟨seen, found⟩
        · cases impossible
  | null =>
      refine (complete []).trans ⟨?_, ?_⟩
      · rintro ⟨seen, found⟩
        exact ⟨[], seen, .inr ⟨rfl, rfl⟩, found⟩
      · rintro ⟨others, seen, impossible | ⟨_, rfl⟩, found⟩
        · cases impossible
        · exact ⟨seen, found⟩
  | _ => simp

/-- What is done to an entry by editing does not help it to be read. -/
structure Harmless (σ : Type) [Record σ] (keeps : Tree → Bool) (edit : Tree → Tree → Tree)
    (entry : Tree × Tree) : Prop where
  dropped : keeps entry.1 = false → IsUnknown σ entry
  known : keeps entry.1 = true → ∀ key, keyText entry.1 = .ok key →
    ∀ a : Attribute σ, attribute? key = some a →
      ∀ update, a.read (edit entry.1 entry.2) = .ok update →
        ∃ update', a.read entry.2 = .ok update'
  unknown : keeps entry.1 = true → ∀ key, keyText entry.1 = .ok key →
    (attribute? key : Option (Attribute σ)) = none →
      (edit entry.1 entry.2).hasTag = false → entry.2.hasTag = false

/-- Entries can be read if they can be read in a form that came of harmless editing. -/
theorem Readable.of_edited {keeps : Tree → Bool} {edit : Tree → Tree → Tree}
    {entries : List (Tree × Tree)} {seen seen' : List String}
    (readable : Readable σ
      ((entries.filter fun entry => keeps entry.1).map fun entry =>
        (entry.1, edit entry.1 entry.2)) seen seen')
    (harmless : ∀ entry ∈ entries, Harmless σ keeps edit entry) :
    Readable σ entries seen seen' := by
  induction entries generalizing seen with
  | nil => exact readable
  | cons entry rest ih =>
      obtain ⟨first, others⟩ := List.forall_mem_cons.1 harmless
      obtain ⟨keyTree, value⟩ := entry
      rw [List.filter_cons] at readable
      split at readable
      · next kept =>
          cases readable with
          | known named found unseen updated later =>
              obtain ⟨update', updated'⟩ := first.known kept _ named _ found _ updated
              exact .known named found unseen updated' (ih later others)
          | unknown plain later =>
              obtain ⟨key, named, absent, tagless⟩ := plain
              exact .unknown ⟨key, named, absent, first.unknown kept key named absent tagless⟩
                (ih later others)
      · next left =>
          exact .unknown (first.dropped (Bool.eq_false_iff.2 left)) (ih readable others)

/-- A mapping can be read if it can be read in a form that came of harmless editing. -/
theorem exists_ofTree?_of_edited {keeps : Tree → Bool} {edit : Tree → Tree → Tree} {tree : Tree}
    {s : σ} (read : ofTree? (editEntries keeps edit tree) = .ok s)
    (harmless : ∀ entries, tree.untagged = .mapping entries →
      ∀ entry ∈ entries, Harmless σ keeps edit entry) :
    ∃ t : σ, ofTree? tree = .ok t := by
  obtain ⟨edited, seen, shape, readable, whole⟩ := exists_ofTree?_iff.1 ⟨s, read⟩
  refine exists_ofTree?_iff.2 ?_
  rw [untagged_editEntries] at shape
  cases plain : tree.untagged with
  | mapping entries =>
      rw [plain] at shape
      rcases shape with same | ⟨impossible, _⟩
      · cases same
        exact ⟨entries, seen, .inl rfl, readable.of_edited (harmless entries plain), whole⟩
      · cases impossible
  | tagged tag value =>
      rw [plain] at shape
      rcases shape with impossible | ⟨impossible, _⟩ <;> cases impossible
  | null =>
      rw [plain] at shape
      exact ⟨edited, seen, shape, readable, whole⟩
  | _ =>
      rw [plain] at shape
      rcases shape with impossible | ⟨impossible, _⟩ <;> cases impossible

/-- A known key is not read again once it has been seen, and so it comes once. -/
theorem Readable.known_once {key : String} {a : Attribute σ} (known : attribute? key = some a)
    {entries : List (Tree × Tree)} {seen seen' : List String}
    (readable : Readable σ entries seen seen') :
    (key ∈ seen → ∀ entry ∈ entries, keyText entry.1 ≠ .ok key) ∧
      entries.Pairwise fun earlier later =>
        keyText earlier.1 = .ok key → keyText later.1 ≠ .ok key := by
  induction readable with
  | nil => exact ⟨fun _ => nofun, .nil⟩
  | known named _ unseen _ _ ih =>
      constructor
      · intro before
        refine List.forall_mem_cons.2 ⟨fun same => ?_, ih.1 (List.mem_cons_of_mem _ before)⟩
        obtain rfl := Except.ok.inj (named.symm.trans same)
        exact unseen before
      · refine List.pairwise_cons.2 ⟨fun entry later same => ?_, ih.2⟩
        obtain rfl := Except.ok.inj (named.symm.trans same)
        exact ih.1 List.mem_cons_self entry later
  | unknown plain _ ih =>
      obtain ⟨other, named, absent, _⟩ := plain
      have different : other ≠ key := by
        rintro rfl
        cases absent.symm.trans known
      constructor
      · intro before
        refine List.forall_mem_cons.2 ⟨fun same => ?_, ih.1 before⟩
        exact different (Except.ok.inj (named.symm.trans same))
      · refine List.pairwise_cons.2 ⟨fun entry later same => ?_, ih.2⟩
        exact absurd (Except.ok.inj (named.symm.trans same)) different

/-- A mapping can be read if it can be read with another value under one of its known keys. -/
theorem exists_ofTree?_of_editAt {key : String} {edit : Tree → Tree} {a : Attribute σ}
    (known : attribute? key = some a) {tree : Tree} {s : σ}
    (read : ofTree? (editAt key edit tree) = .ok s) {entries : List (Tree × Tree)}
    (shape : tree.untagged = .mapping entries) {keyTree value : Tree}
    (held : (keyTree, value) ∈ entries) (named : keyText keyTree = .ok key)
    (helps : ∀ update, a.read (edit value) = .ok update → ∃ update', a.read value = .ok update') :
    ∃ t : σ, ofTree? tree = .ok t := by
  -- editing leaves the keys as they are, so the key comes once in the mapping itself
  have once : entries.Pairwise fun earlier later =>
      keyText earlier.1 = .ok key → keyText later.1 ≠ .ok key := by
    obtain ⟨edited, seen, edited_shape, readable, _⟩ := exists_ofTree?_iff.1 ⟨s, read⟩
    unfold editAt at edited_shape
    rw [untagged_editEntries, shape] at edited_shape
    rcases edited_shape with same | ⟨impossible, _⟩
    · cases same
      have apart := (readable.known_once known).2
      rw [List.filter_eq_self.2 fun _ _ => rfl, List.pairwise_map] at apart
      exact apart
    · cases impossible
  refine exists_ofTree?_of_edited read fun others same entry listed => ?_
  cases shape.symm.trans same
  constructor
  case dropped => exact fun impossible => nomatch impossible
  case known =>
    intro _ other found b known' update updated
    split at updated
    · next chosen =>
        obtain rfl := Except.ok.inj (found.symm.trans (isOneOf_singleton_iff.1 chosen))
        obtain rfl := Option.some.inj (known.symm.trans known')
        obtain rfl : entry = (keyTree, value) := by
          have symmetric : Std.Symm fun earlier later : Tree × Tree =>
              keyText earlier.1 = .ok other → keyText later.1 ≠ .ok other :=
            ⟨fun _ _ apart later earlier => apart earlier later⟩
          refine Classical.byContradiction fun different => ?_
          exact once.forall listed held different found named
        exact helps update updated
    · exact ⟨update, updated⟩
  case unknown =>
    intro _ other found absent tagless
    split at tagless
    · next chosen =>
        obtain rfl := Except.ok.inj (found.symm.trans (isOneOf_singleton_iff.1 chosen))
        cases absent.symm.trans known
    · exact tagless

/-! ## Values under unknown keys -/

variable [Lawful σ]

/-- A key under which no entry stands is looked up as before. -/
theorem get?_extra_of_absent {key : String} {entries : List (Tree × Tree)}
    {seen seen' : List String} {s t : σ} (read : readEntries entries seen s = .ok (seen', t))
    (absent : ∀ entry ∈ entries, keyText entry.1 ≠ .ok key) :
    (extra t).get? key = (extra s).get? key := by
  induction entries generalizing seen s with
  | nil =>
      cases read
      rfl
  | cons entry rest ih =>
      obtain ⟨first, others⟩ := List.forall_mem_cons.1 absent
      obtain ⟨other, named, ⟨a, update, found, _, updated, later⟩ | ⟨_, _, later⟩⟩ :=
        readEntries_cons read
      · rw [ih later others,
          (Lawful.independent a (mem_of_attribute? found).1).leaves_extra _ _ updated]
      · have different : other ≠ key := fun same => first (same ▸ named)
        rw [ih later others, Lawful.extra_withExtra, KeyMap.get?_insert, if_neg different]

/-- An unknown key that comes once is found with its value in the record that is read. -/
theorem get?_extra_of_mem {key : String} {value : Tree} {entries : List (Tree × Tree)}
    (unknown : key ∉ knownKeys σ)
    (once : entries.Pairwise fun earlier later =>
      keyText earlier.1 = .ok key → keyText later.1 ≠ .ok key)
    (listed : (.string key, value) ∈ entries) {seen seen' : List String} {s t : σ}
    (read : readEntries entries seen s = .ok (seen', t)) : (extra t).get? key = some value := by
  induction entries generalizing seen s with
  | nil => cases listed
  | cons entry rest ih =>
      obtain ⟨alone, once_rest⟩ := List.pairwise_cons.1 once
      obtain ⟨other, named, step⟩ := readEntries_cons read
      rcases List.mem_cons.1 listed with rfl | further
      · obtain rfl : key = other := Except.ok.inj named
        obtain ⟨a, _, found, _, _, _⟩ | ⟨_, _, later⟩ := step
        · rw [attribute?_eq_none_iff.2 unknown] at found
          cases found
        · rw [get?_extra_of_absent later fun entry member => alone entry member rfl,
            Lawful.extra_withExtra, KeyMap.get?_insert, if_pos rfl]
      · obtain ⟨_, _, _, _, _, later⟩ | ⟨_, _, later⟩ := step
        · exact ih once_rest further later
        · exact ih once_rest further later

end Record

/-! ## Looking up what is written -/

section

variable {σ : Type}

theorem lookup?_append (entries more : List (Tree × Tree)) (key : String) :
    Tree.lookup? (entries ++ more) key =
      (Tree.lookup? entries key).or (Tree.lookup? more key) := by
  unfold Tree.lookup?
  rw [List.find?_append, Option.map_or]

theorem lookup?_cons (other key : String) (value : Tree) (rest : List (Tree × Tree)) :
    Tree.lookup? ((.string other, value) :: rest) key =
      if other = key then some value else Tree.lookup? rest key := by
  unfold Tree.lookup?
  by_cases same : other = key <;> simp [same]

theorem lookup?_written_of_notMem {as : List (Attribute σ)} {key : String}
    (absent : key ∉ as.map Attribute.key) (s : σ) :
    Tree.lookup? (Record.written as s) key = none := by
  induction as with
  | nil => rfl
  | cons a as ih =>
      obtain ⟨different, others⟩ := not_or.1 (mt List.mem_cons.2 absent)
      unfold Record.written at ih ⊢
      cases value : a.write s with
      | none => simpa [value] using ih others
      | some tree =>
          rw [List.filterMap_cons_some (by rw [value]; rfl), lookup?_cons,
            if_neg (Ne.symm different), ih others]

theorem lookup?_written {as : List (Attribute σ)} (distinct : (as.map Attribute.key).Nodup)
    {a : Attribute σ} (member : a ∈ as) (s : σ) :
    Tree.lookup? (Record.written as s) a.key = a.write s := by
  induction as with
  | nil => cases member
  | cons b as ih =>
      obtain ⟨apart, others⟩ := List.nodup_cons.1 distinct
      rcases List.mem_cons.1 member with rfl | later
      · have absent := lookup?_written_of_notMem apart s
        unfold Record.written at absent ⊢
        cases value : a.write s with
        | none => simpa [value] using absent
        | some tree => rw [List.filterMap_cons_some (by rw [value]; rfl), lookup?_cons, if_pos rfl]
      · have different : b.key ≠ a.key := fun same =>
          apart (same ▸ List.mem_map.2 ⟨a, later, rfl⟩)
        have found := ih others later
        unfold Record.written at found ⊢
        cases value : b.write s with
        | none => simpa [value] using found
        | some tree =>
            rw [List.filterMap_cons_some (by rw [value]; rfl), lookup?_cons, if_neg different,
              found]

theorem lookup?_extraEntries (extra : List (String × Tree)) (key : String) :
    Tree.lookup? (Record.extraEntries extra) key =
      (extra.find? fun entry => entry.1 == key).map Prod.snd := by
  induction extra with
  | nil => rfl
  | cons entry rest ih =>
      unfold Record.extraEntries at ih ⊢
      rw [List.map_cons, lookup?_cons, ih]
      by_cases same : entry.1 = key <;> simp [same]

end

namespace Record

variable {σ : Type} [Record σ]

/-- Under an unknown key a record is written with what its map of unknown keys holds. -/
theorem lookup?_of_unknown {key : String} (unknown : key ∉ knownKeys σ) (s : σ) :
    Tree.lookup? (entries s) key = (extra s).get? key := by
  rw [entries_eq, lookup?_append, lookup?_written_of_notMem unknown, Option.none_or,
    lookup?_extraEntries]
  rfl

/-- Under the key of an attribute a record is written with what is written for the attribute. -/
theorem lookup?_of_written [Lawful σ] {a : Attribute σ}
    (member : a ∈ (attributes : List (Attribute σ))) {s : σ} {value : Tree}
    (written : a.write s = some value) : Tree.lookup? (entries s) a.key = some value := by
  rw [entries_eq, lookup?_append, lookup?_written Lawful.keys_nodup member, written]
  rfl

end Record

end InstallerSetup.Config
