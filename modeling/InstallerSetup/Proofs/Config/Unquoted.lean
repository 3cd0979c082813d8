import InstallerSetup.Proofs.Config.Place
import InstallerSetup.Proofs.Yaml.Reader

/-!
# Fields without quotes

A field that is read from any scalar can stand in a document without quotes. It then holds the text
of the scalar's value, which is the text that stands in the document if and only if that is a
faithful spelling of the value (`unquoted_field`). An integer of more than 64 bits is not a value,
and a document with one is not read at all.
-/

namespace InstallerSetup.Config

open InstallerSetup.Yaml (Document Plain.IsFaithful Plain.Meaning.tree.inj Plain.meaning Tree)
open InstallerSetup.Yaml.ScalarText (isMisread)

/-- A document gives a field of a section a scalar without quotes and tag. -/
def GivesPlain (d : Document) (name key text : String) : Prop :=
  ∃ group ∈ d.nodesUnder name d.root, ∃ value ∈ d.nodesUnder key group,
    d.plainText? value = some text

instance (d : Document) (name key text : String) : Decidable (GivesPlain d name key text) :=
  inferInstanceAs (Decidable (∃ group ∈ d.nodesUnder name d.root, ∃ value ∈ d.nodesUnder key group,
    d.plainText? value = some text))

def withField (name key text : String) : Tree → Tree :=
  editAt name (editAt key fun _ => .string text)

/-- A tree has a value in a field of a section. -/
inductive ValueAt (tree : Tree) (name key : String) (value : Tree) : Prop where
  | intro {entries fields : List (Tree × Tree)} {sectionKey group fieldKey : Tree}
      (shape : tree.untagged = .mapping entries) (held : (sectionKey, group) ∈ entries)
      (named : Record.keyText sectionKey = .ok name) (inside : group.untagged = .mapping fields)
      (listed : (fieldKey, value) ∈ fields) (keyed : Record.keyText fieldKey = .ok key) :
      ValueAt tree name key value

theorem keyText_of_untagged {tree : Tree} {text : String} (shape : tree.untagged = .string text) :
    Record.keyText tree = .ok text := by
  unfold Record.keyText
  rw [shape]

/-- The keys of sections and of their attributes are texts without quotes too. -/
theorem clear_of_section {s : Section} (isSection : s ∈ sections) :
    isMisread s.name = false ∧ ∀ key ∈ knownKeys s.σ, isMisread key = false := by
  revert s
  simp only [sections, List.forall_mem_cons]
  refine ⟨?_, ?_, ?_, ?_, ?_, ?_, ?_, ?_, List.forall_mem_nil _⟩
  all_goals exact ⟨by decide +kernel, by decide +kernel⟩

theorem exists_ofText?_of_ofText {text : String} {c : Config} (loaded : ofText text = .ok c) :
    ∃ tree, Tree.ofText? text = .ok tree := by
  cases read : Tree.ofText? text with
  | ok tree => exact ⟨tree, rfl⟩
  | error error =>
      unfold ofText parse at loaded
      rw [read] at loaded
      cases loaded

/-- What a document gives a field stands there in the tree, with its meaning as the value. -/
theorem valueAt_of_givesPlain {text spelling name key : String} {tree : Tree}
    (clear_name : isMisread name = false) (clear_key : isMisread key = false)
    (gives : GivesPlain (Document.ofText text) name key spelling)
    (read : Tree.ofText? text = .ok tree) :
    ∃ value, Plain.meaning spelling = .tree value ∧ ValueAt tree name key value := by
  obtain ⟨group, held, node, listed, spelled⟩ := gives
  obtain ⟨_, entries, sectionKey, groupTree, shape, held', named, group_reads⟩ :=
    Tree.exists_entry_of_nodesUnder clear_name held (Tree.reads_of_ofText? read)
  obtain ⟨_, fields, fieldKey, value, inside, listed', keyed, value_reads⟩ :=
    Tree.exists_entry_of_nodesUnder clear_key listed group_reads
  exact ⟨value, Tree.meaning_of_plainText? spelled value_reads,
    .intro shape held' (keyText_of_untagged named) inside listed' (keyText_of_untagged keyed)⟩

section

variable {s : Section} (f : s.TextField) {tree value : Tree}

/-- A document can be read if it can be read with some text in a field that has a scalar. -/
theorem exists_ofTree?_of_withField {other held : String} {c₀ : Config}
    (read : Record.ofTree? (withField s.name f.key other tree) = .ok c₀)
    (valueAt : ValueAt tree s.name f.key value) (scalar : Attribute.scalarText value = .ok held) :
    ∃ c : Config, Record.ofTree? tree = .ok c := by
  obtain ⟨shape, held, named, inside, listed, keyed⟩ := valueAt
  refine Record.exists_ofTree?_of_editAt (Record.attribute?_of_mem s.listed) read shape held named
    ?_
  intro update updated
  obtain ⟨r, edited, _⟩ := Attribute.read_eq_ok (fun _ => rfl) updated
  obtain ⟨r', group_read⟩ := Record.exists_ofTree?_of_editAt (Record.attribute?_of_mem f.listed)
    edited inside listed keyed fun _ _ => ⟨fun r => f.set r _, by
      unfold Attribute.text
      simp only [scalar]
      rfl⟩
  exact ⟨_, Attribute.read_record group_read⟩

theorem scalarText_of_valueAt {c : Config} (read : Record.ofTree? tree = .ok c)
    (valueAt : ValueAt tree s.name f.key value) :
    Attribute.scalarText value = .ok (f.get (s.get c)) := by
  obtain ⟨shape, held, named, inside, listed, keyed⟩ := valueAt
  exact f.scalarText_of_entry (s.ofTree?_of_entry read shape held named) inside listed keyed

end

/-- A plain scalar has a text, which is its spelling if that is faithful. -/
theorem scalarText_of_meaning {spelling : String} {value : Tree}
    (means : Plain.meaning spelling = .tree value) :
    ∃ held, Attribute.scalarText value = .ok held ∧
      (held = spelling ↔ Plain.IsFaithful spelling value) := by
  cases Yaml.Plain.means_of_meaning means with
  | null => exact ⟨_, rfl, eq_comm⟩
  | bool read => exact ⟨_, rfl, Yaml.Plain.boolText_eq_iff read⟩
  | int read => exact ⟨_, rfl, Yaml.Plain.intText_eq_iff read⟩
  | float => exact ⟨_, rfl, eq_comm⟩
  | string => exact ⟨_, rfl, iff_of_true rfl trivial⟩

/--
A document that can be read with some text in a field can be read with a scalar without quotes
there, and the field holds the text of the scalar's value, which is its spelling if and only if that
is faithful; but with an integer of more than 64 bits the document cannot be read.
-/
theorem unquoted_field {s : Section} (isSection : s ∈ sections) (f : s.TextField)
    {text spelling : String}
    (gives : GivesPlain (Document.ofText text) s.name f.key spelling) :
    (∀ n, Plain.meaning spelling = .wide n → ∀ c, ofText text ≠ .ok c) ∧
      ∀ tree other c₀, Tree.ofText? text = .ok tree → version? tree = .ok currentVersion →
        ofTree (withField s.name f.key other tree) = .ok c₀ →
          ∃ value c, Plain.meaning spelling = .tree value ∧ ofText text = .ok c ∧
            Attribute.scalarText value = .ok (f.get (s.get c)) ∧
            (f.get (s.get c) = spelling ↔ Plain.IsFaithful spelling value) := by
  obtain ⟨clear_name, clear_keys⟩ := clear_of_section isSection
  have clear_key := clear_keys f.key (List.mem_map.2 ⟨_, f.listed, rfl⟩)
  constructor
  · intro n wide c loaded
    obtain ⟨tree, shape⟩ := exists_ofText?_of_ofText loaded
    obtain ⟨_, means, _⟩ := valueAt_of_givesPlain clear_name clear_key gives shape
    cases wide.symm.trans means
  · intro tree other c₀ shape version loads
    obtain ⟨value, means, valueAt⟩ := valueAt_of_givesPlain clear_name clear_key gives shape
    obtain ⟨held, scalar, faithful⟩ := scalarText_of_meaning means
    obtain ⟨c, read⟩ := exists_ofTree?_of_withField f (ofTree_eq_ok_iff.1 loads) valueAt scalar
    have stored := scalarText_of_valueAt f read valueAt
    obtain rfl := Except.ok.inj (scalar.symm.trans stored)
    exact ⟨value, c, means, ofText_of_current shape version read, stored, faithful⟩

/-! ### Passwords without quotes -/

def passwordText (spelling : String) : String :=
  "version: 2\nsre:\n  password: " ++ spelling ++ "\n"

def withPassword (password : String) : Config :=
  { initial with sre := { initial.sre with password := password } }

def password : Section.sre.TextField where
  key := "password"
  get := Sre.password
  set r v := { r with password := v }
  get_set _ _ := rfl
  listed := List.mem_cons_of_mem _ List.mem_cons_self

theorem unquoted_field_password :
    (∃ c, ofText (passwordText "12345678") = .ok c ∧ c.sre.password = "12345678") ∧
      ∀ c, ofText (passwordText "18446744073709551616") ≠ .ok c := by
  have isSection : Section.sre ∈ sections := by simp [sections]
  constructor
  · have gives : GivesPlain (Document.ofText (passwordText "12345678")) "sre" "password"
        "12345678" := by decide +kernel
    have shape : Tree.ofText? (passwordText "12345678") = .ok (.mapping
        [(.string "version", .int 2),
          (.string "sre", .mapping [(.string "password", .int 12345678)])]) :=
      Except.eq_ok_of_toOption (by decide +kernel)
    obtain ⟨value, c, means, loaded, _, faithful⟩ :=
      (unquoted_field isSection password gives).2 _ "" initial shape
        (Except.eq_ok_of_toOption (by decide +kernel))
        (Except.eq_ok_of_toOption (by decide +kernel))
    obtain rfl : Tree.int 12345678 = value :=
      Plain.Meaning.tree.inj ((by decide +kernel : Plain.meaning "12345678" = _).symm.trans means)
    exact ⟨c, loaded, faithful.2 (by decide)⟩
  · have gives : GivesPlain (Document.ofText (passwordText "18446744073709551616")) "sre" "password"
        "18446744073709551616" := by decide +kernel
    exact (unquoted_field isSection password gives).1 18446744073709551616 (by decide +kernel)

/--
A hexadecimal password comes to be held as a decimal one, and a document cannot be read if its
password is an integer of 65 bits.
-/
theorem unquoted_field_rewritten :
    (GivesPlain (Document.ofText (passwordText "0x1F")) "sre" "password" "0x1F" ∧
        Plain.meaning "0x1F" = .tree (.int 31) ∧
        ofText (passwordText "0x1F") = .ok (withPassword "31")) ∧
      GivesPlain (Document.ofText (passwordText "18446744073709551616")) "sre" "password"
        "18446744073709551616" ∧
      Plain.meaning "18446744073709551616" = .wide 18446744073709551616 ∧
      ∀ c, ofText (passwordText "18446744073709551616") ≠ .ok c := by
  constructor
  · exact ⟨by decide +kernel, by decide +kernel, Except.eq_ok_of_toOption (by decide +kernel)⟩
  · exact ⟨by decide +kernel, by decide +kernel, Except.ne_ok_of_toOption (by decide +kernel)⟩

end InstallerSetup.Config
