import InstallerSetup.Config.Record
import InstallerSetup.Proofs.KeyMap
import InstallerSetup.Proofs.Yaml.Tree

/-!
# Reading what a record writes

`Record.Lawful` says what the attributes of a record have in common. Whatever is read is `Clean`
(`Record.clean_of_ofTree?`): its unknown keys are no keys of attributes and hold no tags. A clean
record is written as a mapping that reads back as a record with the same attributes and the same
unknown keys (`Record.ofTree?_toTree`).
-/

namespace InstallerSetup.Config

open InstallerSetup.Yaml (Tree Mismatch)

/-- What an attribute writes of a record is read as an update that restores it. -/
def Attribute.Restores {σ : Type} (a : Attribute σ) (s : σ) : Prop :=
  ∀ value, a.write s = some value →
    ∃ update, a.read value = .ok update ∧ ∀ t, a.write (update t) = some value

/-- Whatever is read for an attribute changes nothing of what is observed. -/
def Attribute.Leaves {σ β : Type} (a : Attribute σ) (observe : σ → β) : Prop :=
  ∀ tree update, a.read tree = .ok update → ∀ s, observe (update s) = observe s

/-- The laws of an attribute: it interferes with no other one and is written only when it must. -/
structure Attribute.Independent {σ : Type} [Record σ] (a : Attribute σ) : Prop where
  leaves_extra : a.Leaves Record.extra
  leaves_others : ∀ b ∈ (Record.attributes : List (Attribute σ)), b.key ≠ a.key → a.Leaves b.write
  write_withExtra : ∀ (s : σ) (e : Extra), a.write (Record.withExtra s e) = a.write s
  absent_or_required : a.required = false ∧ a.write Record.fresh = none ∨
    ∀ s, (a.write s).isSome = true

namespace Record

variable {σ : Type} [Record σ]

/-- The unknown keys are no keys of attributes, and no tag stands in their values. -/
def Clean (s : σ) : Prop :=
  ∀ entry ∈ (extra s).entries,
    (attribute? entry.1 : Option (Attribute σ)) = none ∧ entry.2.hasTag = false

theorem clean_of_extra_eq {s t : σ} (same : extra s = extra t) (clean : Clean t) : Clean s := by
  unfold Clean
  rw [same]
  exact clean

theorem mem_of_attribute? {key : String} {a : Attribute σ} (found : attribute? key = some a) :
    a ∈ (attributes : List (Attribute σ)) ∧ a.key = key := by
  have named := List.find?_some found
  exact ⟨List.mem_of_find?_eq_some found, eq_of_beq named⟩

/-! ## What is written -/

def written {σ : Type} (as : List (Attribute σ)) (s : σ) : List (Tree × Tree) :=
  as.filterMap fun a => (a.write s).map fun value => (.string a.key, value)

def extraEntries (e : List (String × Tree)) : List (Tree × Tree) :=
  e.map fun entry => (.string entry.1, entry.2)

theorem entries_eq (s : σ) :
    entries s = written attributes s ++ extraEntries (extra s).entries := rfl

/-- A clean record is written without tags if its attributes are. -/
theorem hasTag_toTree {s : σ} (clean : Clean s)
    (plain : ∀ a ∈ (attributes : List (Attribute σ)), ∀ value, a.write s = some value →
      value.hasTag = false) :
    (toTree s).hasTag = false := by
  refine Tree.entriesHaveTag_eq_false.2 fun entry member => ?_
  rw [entries_eq] at member
  rcases List.mem_append.1 member with known | unknown
  · obtain ⟨a, listed, value⟩ := List.mem_filterMap.1 known
    obtain ⟨tree, found, rfl⟩ := Option.map_eq_some_iff.1 value
    exact ⟨rfl, plain a listed tree found⟩
  · obtain ⟨other, listed, rfl⟩ := List.mem_map.1 unknown
    exact ⟨rfl, (clean other listed).2⟩

/-! ## What reading does with an entry -/

/-- The first entry of a mapping is read as an attribute not yet seen or as an unknown key. -/
theorem readEntries_cons {keyTree value : Tree} {rest : List (Tree × Tree)}
    {seen seen' : List String} {s t : σ}
    (read : readEntries ((keyTree, value) :: rest) seen s = .ok (seen', t)) :
    ∃ key, keyText keyTree = .ok key ∧
      ((∃ a update, attribute? key = some a ∧ key ∉ seen ∧ a.read value = .ok update ∧
          readEntries rest (key :: seen) (update s) = .ok (seen', t)) ∨
        ((attribute? key : Option (Attribute σ)) = none ∧ value.hasTag = false ∧
          readEntries rest seen (withExtra s ((extra s).insert key value)) = .ok (seen', t))) := by
  unfold readEntries at read
  split at read
  · cases read
  · next key named =>
      refine ⟨key, named, ?_⟩
      split at read
      · next a found =>
          split at read
          · cases read
          · next unseen =>
              split at read
              · cases read
              · next update updated =>
                  exact .inl ⟨a, update, found, by simpa using unseen, updated, read⟩
      · next absent =>
          split at read
          · cases read
          · next plain => exact .inr ⟨absent, by simpa using plain, read⟩

/-- What every entry keeps is kept by a whole mapping. -/
theorem readEntries_induction {P : σ → Prop}
    (known : ∀ a ∈ (attributes : List (Attribute σ)), ∀ tree update, a.read tree = .ok update →
      ∀ s, P s → P (update s))
    (unknown : ∀ s key value, (attribute? key : Option (Attribute σ)) = none →
      value.hasTag = false → P s → P (withExtra s ((extra s).insert key value)))
    {entries : List (Tree × Tree)} {seen seen' : List String} {s t : σ}
    (read : readEntries entries seen s = .ok (seen', t)) (holds : P s) : P t := by
  induction entries generalizing seen s with
  | nil =>
      cases read
      exact holds
  | cons entry rest ih =>
      obtain ⟨key, _, ⟨a, update, found, _, updated, later⟩ | ⟨absent, plain, later⟩⟩ :=
        readEntries_cons read
      · exact ih later (known a (mem_of_attribute? found).1 _ _ updated s holds)
      · exact ih later (unknown s key _ absent plain holds)

/-- No key is missing if all required ones were seen. -/
theorem missing?_eq_none_iff {seen : List String} :
    missing? σ seen = none ↔
      ∀ a ∈ (attributes : List (Attribute σ)), a.required = true → a.key ∈ seen := by
  unfold missing?
  rw [Option.map_eq_none_iff, List.find?_eq_none]
  simp

/-- A mapping is a record if all its entries are read and no key is missing. -/
theorem ofTree?_mapping_eq_ok_iff {entries : List (Tree × Tree)} {s : σ} :
    ofTree? (.mapping entries) = .ok s ↔
      ∃ seen, readEntries entries [] (fresh : σ) = .ok (seen, s) ∧ missing? σ seen = none := by
  simp only [ofTree?, Tree.untagged]
  cases result : readEntries entries [] (fresh : σ) with
  | error reason => simp [bind, Except.bind]
  | ok pair =>
      obtain ⟨seen, t⟩ := pair
      simp only [bind, Except.bind]
      constructor
      · intro done
        split at done
        · cases done
        · next whole =>
            cases done
            exact ⟨seen, rfl, whole⟩
      · rintro ⟨_, same, whole⟩
        cases same
        rw [whole]
        rfl

/-- A record is read from a mapping, or from null as from an empty one. -/
theorem ofTree?_eq_ok {tree : Tree} {s : σ} (read : ofTree? tree = .ok s) :
    ∃ entries seen, readEntries entries [] (fresh : σ) = .ok (seen, s) ∧
      (tree.untagged = .mapping entries ∨ tree.untagged = .null ∧ entries = []) := by
  unfold ofTree? at read
  split at read
  · next entries shape =>
      obtain ⟨seen, done, _⟩ := ofTree?_mapping_eq_ok_iff.1 read
      exact ⟨entries, seen, done, .inl shape⟩
  · next shape =>
      obtain ⟨seen, done, _⟩ := ofTree?_mapping_eq_ok_iff.1 read
      exact ⟨[], seen, done, .inr ⟨shape, rfl⟩⟩
  · cases read

/-- What holds of the fresh record and is kept by every entry holds of whatever is read. -/
theorem ofTree?_induction {P : σ → Prop} (initial : P fresh)
    (known : ∀ a ∈ (attributes : List (Attribute σ)), ∀ tree update, a.read tree = .ok update →
      ∀ s, P s → P (update s))
    (unknown : ∀ s key value, (attribute? key : Option (Attribute σ)) = none →
      value.hasTag = false → P s → P (withExtra s ((extra s).insert key value)))
    {tree : Tree} {s : σ} (read : ofTree? tree = .ok s) : P s := by
  obtain ⟨entries, seen, done, _⟩ := ofTree?_eq_ok read
  exact readEntries_induction known unknown done initial

/-! ## Lawful records -/

/-- The laws of records: the attributes have keys of their own and are independent. -/
class Lawful (σ : Type) [Record σ] : Prop where
  keys_nodup : ((attributes : List (Attribute σ)).map Attribute.key).Nodup
  extra_fresh : extra (fresh : σ) = .empty
  extra_withExtra : ∀ (s : σ) (e : Extra), extra (withExtra s e) = e
  independent : ∀ a ∈ (attributes : List (Attribute σ)), a.Independent

variable [Lawful σ]

theorem attribute?_of_mem {a : Attribute σ} (member : a ∈ (attributes : List (Attribute σ))) :
    attribute? a.key = some a := by
  have first : ∀ as : List (Attribute σ), (as.map Attribute.key).Nodup → a ∈ as →
      as.find? (fun b => b.key == a.key) = some a := by
    intro as distinct listed
    induction as with
    | nil => cases listed
    | cons b rest ih =>
        have ⟨apart, others⟩ := List.nodup_cons.1 distinct
        rcases List.mem_cons.1 listed with rfl | later
        · simp
        · have different : (b.key == a.key) = false := by
            refine beq_false_of_ne fun same => apart ?_
            exact same ▸ List.mem_map.2 ⟨a, later, rfl⟩
          rw [List.find?_cons, different]
          exact ih others later
  exact first attributes Lawful.keys_nodup member

theorem clean_fresh : Clean (fresh : σ) := by
  unfold Clean
  rw [Lawful.extra_fresh]
  exact fun entry impossible => nomatch impossible

theorem clean_of_ofTree? {tree : Tree} {s : σ} (read : ofTree? tree = .ok s) : Clean s := by
  refine ofTree?_induction clean_fresh ?_ ?_ read
  · intro a member tree update updated s clean
    exact clean_of_extra_eq ((Lawful.independent a member).leaves_extra tree update updated s) clean
  · intro s key value absent plain clean entry member
    rw [Lawful.extra_withExtra] at member
    rcases mem_insertEntry member with rfl | old
    · exact ⟨absent, plain⟩
    · exact clean entry old

/-- An attribute that has been seen is not read again. -/
theorem write_of_seen {a : Attribute σ} (member : a ∈ (attributes : List (Attribute σ)))
    {entries : List (Tree × Tree)} {seen seen' : List String} {s t : σ}
    (read : readEntries entries seen s = .ok (seen', t)) (before : a.key ∈ seen) :
    a.write t = a.write s := by
  induction entries generalizing seen s with
  | nil =>
      cases read
      rfl
  | cons entry rest ih =>
      obtain ⟨key, _, ⟨b, update, found, unseen, updated, later⟩ | ⟨_, _, later⟩⟩ :=
        readEntries_cons read
      · obtain ⟨listed, named⟩ := mem_of_attribute? found
        have different : a.key ≠ b.key := fun same => unseen (named ▸ same ▸ before)
        rw [ih later (List.mem_cons_of_mem _ before)]
        exact (Lawful.independent b listed).leaves_others a member different _ _ updated s
      · rw [ih later before, (Lawful.independent a member).write_withExtra]

/-- What is read for an attribute comes from the entry under its key. -/
theorem write_of_entry {a : Attribute σ} (member : a ∈ (attributes : List (Attribute σ)))
    {entries : List (Tree × Tree)} {keyTree value : Tree} (listed : (keyTree, value) ∈ entries)
    (named : keyText keyTree = .ok a.key) {seen seen' : List String} {s t : σ}
    (read : readEntries entries seen s = .ok (seen', t)) :
    ∃ update u, a.read value = .ok update ∧ a.write t = a.write (update u) := by
  induction entries generalizing seen s with
  | nil => cases listed
  | cons entry rest ih =>
      obtain ⟨key, name, step⟩ := readEntries_cons read
      rcases List.mem_cons.1 listed with rfl | further
      · obtain rfl : a.key = key := Except.ok.inj (named.symm.trans name)
        have found := attribute?_of_mem member
        obtain ⟨b, update, found', _, updated, later⟩ | ⟨absent, _, _⟩ := step
        · obtain rfl : a = b := Option.some.inj (found.symm.trans found')
          exact ⟨update, s, updated, write_of_seen member later List.mem_cons_self⟩
        · cases found.symm.trans absent
      · obtain ⟨_, _, _, _, _, later⟩ | ⟨_, _, later⟩ := step
        · exact ih further later
        · exact ih further later

/-! ## Reading back -/

/-- How the entries of some attributes of `s` are read, from `t` to `t'`. -/
structure ReadBack (as : List (Attribute σ)) (s t t' : σ) (seen' : List String) : Prop where
  extra_eq : extra t' = extra t
  write_listed : ∀ a ∈ as, a.write t' = (a.write s).or (a.write t)
  write_other : ∀ b ∈ (attributes : List (Attribute σ)), b.key ∉ as.map Attribute.key →
    b.write t' = b.write t
  seen_written : ∀ a ∈ as, (a.write s).isSome = true → a.key ∈ seen'

theorem readEntries_known {a : Attribute σ} (member : a ∈ (attributes : List (Attribute σ)))
    {value : Tree} {update : σ → σ} (updated : a.read value = .ok update)
    {seen : List String} (unseen : a.key ∉ seen) (rest : List (Tree × Tree)) (s : σ) :
    readEntries ((.string a.key, value) :: rest) seen s =
      readEntries rest (a.key :: seen) (update s) := by
  rw [readEntries, show keyText (.string a.key) = .ok a.key from rfl]
  simp [attribute?_of_mem member, unseen, updated]

/-- What is written of some attributes is read back, and nothing else is touched. -/
theorem readEntries_written {s : σ} {as : List (Attribute σ)}
    (listed : ∀ a ∈ as, a ∈ (attributes : List (Attribute σ)))
    (restores : ∀ a ∈ as, a.Restores s) (distinct : (as.map Attribute.key).Nodup)
    (tail : List (Tree × Tree)) (seen : List String) (unseen : ∀ a ∈ as, a.key ∉ seen) (t : σ) :
    ∃ seen' t', readEntries (written as s ++ tail) seen t = readEntries tail seen' t' ∧
      ReadBack as s t t' seen' ∧ ∀ key ∈ seen, key ∈ seen' := by
  induction as generalizing seen t with
  | nil =>
      refine ⟨seen, t, rfl, ⟨rfl, ?_, fun _ _ _ => rfl, ?_⟩, fun _ before => before⟩
      · exact fun a impossible => nomatch impossible
      · exact fun a impossible => nomatch impossible
  | cons a as ih =>
      have ⟨apart, others⟩ := List.nodup_cons.1 distinct
      have member := listed a List.mem_cons_self
      have listed' : ∀ b ∈ as, b ∈ (attributes : List (Attribute σ)) := fun b later =>
        listed b (List.mem_cons_of_mem _ later)
      have restores' : ∀ b ∈ as, b.Restores s := fun b later =>
        restores b (List.mem_cons_of_mem _ later)
      have different : ∀ b ∈ as, b.key ≠ a.key := fun b later same =>
        apart (same ▸ List.mem_map.2 ⟨b, later, rfl⟩)
      have elsewhere : ∀ b ∈ as, b.key ∉ seen := fun b later =>
        unseen b (List.mem_cons_of_mem _ later)
      cases value : a.write s with
      | none =>
          -- nothing is written, so the attribute keeps the value it has in the target
          obtain ⟨seen', t', read, back, kept⟩ := ih listed' restores' others seen elsewhere t
          have skipped : written (a :: as) s = written as s := by simp [written, value]
          refine ⟨seen', t', by rw [skipped, read], ⟨back.extra_eq, ?_, ?_, ?_⟩, kept⟩
          · intro b found
            rcases List.mem_cons.1 found with rfl | later
            · rw [value, Option.none_or]
              exact back.write_other b member apart
            · exact back.write_listed b later
          · intro b found absent
            exact back.write_other b found fun later => absent (List.mem_cons_of_mem _ later)
          · intro b found present
            rcases List.mem_cons.1 found with rfl | later
            · rw [value] at present
              cases present
            · exact back.seen_written b later present
      | some tree =>
          obtain ⟨update, updated, restored⟩ := restores a List.mem_cons_self tree value
          have fresh' : ∀ b ∈ as, b.key ∉ a.key :: seen := by
            intro b later found
            rcases List.mem_cons.1 found with same | before
            · exact different b later same
            · exact elsewhere b later before
          obtain ⟨seen', t', read, back, kept⟩ :=
            ih listed' restores' others (a.key :: seen) fresh' (update t)
          have shown : written (a :: as) s = (.string a.key, tree) :: written as s := by
            simp [written, value]
          refine ⟨seen', t', ?_, ⟨?_, ?_, ?_, ?_⟩,
            fun key before => kept key (List.mem_cons_of_mem _ before)⟩
          · rw [shown, List.cons_append,
              readEntries_known member updated (unseen a List.mem_cons_self), read]
          · rw [back.extra_eq, (Lawful.independent a member).leaves_extra _ _ updated]
          · intro b found
            rcases List.mem_cons.1 found with rfl | later
            · rw [value, Option.some_or, back.write_other b member apart, restored]
            · rw [back.write_listed b later,
                (Lawful.independent a member).leaves_others b (listed' b later)
                  (different b later) _ _ updated]
          · intro b found absent
            rw [back.write_other b found fun later => absent (List.mem_cons_of_mem _ later)]
            refine (Lawful.independent a member).leaves_others b found ?_ _ _ updated t
            exact fun same => absent (same ▸ List.mem_cons_self)
          · intro b found present
            rcases List.mem_cons.1 found with rfl | later
            · exact kept b.key List.mem_cons_self
            · exact back.seen_written b later present

theorem readEntries_extra (rest : List (String × Tree))
    (clean : ∀ entry ∈ rest,
      (attribute? entry.1 : Option (Attribute σ)) = none ∧ entry.2.hasTag = false)
    (seen : List String) (t : σ) :
    ∃ t', readEntries (extraEntries rest) seen t = .ok (seen, t') ∧
      extra t' = rest.foldl (fun m entry => m.insert entry.1 entry.2) (extra t) ∧
      ∀ a ∈ (attributes : List (Attribute σ)), a.write t' = a.write t := by
  induction rest generalizing t with
  | nil => exact ⟨t, rfl, rfl, fun _ _ => rfl⟩
  | cons entry rest ih =>
      have ⟨absent, plain⟩ := clean entry List.mem_cons_self
      obtain ⟨t', read, extra_eq, write_eq⟩ :=
        ih (fun other later => clean other (List.mem_cons_of_mem _ later))
          (withExtra t ((extra t).insert entry.1 entry.2))
      refine ⟨t', ?_, ?_, ?_⟩
      · rw [← read, extraEntries, List.map_cons, readEntries,
          show keyText (.string entry.1) = .ok entry.1 from rfl]
        simp [absent, plain, extraEntries]
      · rw [extra_eq, Lawful.extra_withExtra, List.foldl_cons]
      · intro a member
        rw [write_eq a member, (Lawful.independent a member).write_withExtra]

/-- A clean record that its attributes restore reads back with the same attributes and keys. -/
theorem ofTree?_toTree {s : σ} (clean : Clean s)
    (restores : ∀ a ∈ (attributes : List (Attribute σ)), a.Restores s) :
    ∃ t, ofTree? (toTree s) = .ok t ∧ extra t = extra s ∧
      ∀ a ∈ (attributes : List (Attribute σ)), a.write t = a.write s := by
  obtain ⟨seen, u, known, back, _⟩ :=
    readEntries_written (fun _ member => member) restores Lawful.keys_nodup
      (extraEntries (extra s).entries) [] (fun _ _ => List.not_mem_nil) (fresh : σ)
  obtain ⟨t, unknown, extra_eq, write_eq⟩ := readEntries_extra (extra s).entries clean seen u
  have complete : missing? σ seen = none := by
    refine missing?_eq_none_iff.2 fun a member required => ?_
    rcases (Lawful.independent a member).absent_or_required with ⟨optional, _⟩ | always
    · rw [required] at optional
      cases optional
    · exact back.seen_written a member (always s)
  refine ⟨t, ?_, ?_, ?_⟩
  · have read : readEntries (entries s) [] (fresh : σ) = .ok (seen, t) := by
      rw [entries_eq, known, unknown]
    exact ofTree?_mapping_eq_ok_iff.2 ⟨seen, read, complete⟩
  · rw [extra_eq, back.extra_eq, Lawful.extra_fresh]
    exact KeyMap.foldl_insert (extra s)
  · intro a member
    rw [write_eq a member, back.write_listed a member]
    cases value : a.write s with
    | some tree => exact Option.some_or
    | none =>
        rw [Option.none_or]
        rcases (Lawful.independent a member).absent_or_required with ⟨_, absent⟩ | always
        · exact absent
        · have present := always s
          rw [value] at present
          cases present

end Record

end InstallerSetup.Config
