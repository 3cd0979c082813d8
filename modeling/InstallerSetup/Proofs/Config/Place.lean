import InstallerSetup.Proofs.Config.Entries
import InstallerSetup.Proofs.Config.RoundTrip

/-!
# The places of a document

A `Section` of a document is a record under the key of one of its attributes, and a `TextField` of a
section is an attribute that is read from any scalar. `Section.ofTree?_of_entry` and
`TextField.scalarText_of_entry` say that both come from the entry under their key.
-/

namespace InstallerSetup.Config

open InstallerSetup.Yaml (Tree)

theorem Attribute.read_record {σ τ : Type} [Record τ] {key : String} {get : σ → τ}
    {set : σ → τ → σ} {tree : Tree} {v : τ} (value : Record.ofTree? tree = .ok v) :
    (record key get set).read tree = .ok fun s => set s v := by
  unfold record
  simp only [value]
  rfl

/-- A document of the current version is read as it stands. -/
theorem ofText_of_current {text : String} {tree : Tree} {c : Config}
    (shape : Tree.ofText? text = .ok tree) (version : version? tree = .ok currentVersion)
    (read : Record.ofTree? tree = .ok c) : ofText text = .ok c :=
  ofText_of_tree shape (migrate_of_version version) read

/-- A section, with where it stands in a document. -/
structure Section where
  {σ : Type}
  [record : Record σ]
  [flat : Record.Flat σ]
  name : String
  get : Config → σ
  set : Config → σ → Config
  get_set : ∀ c v, get (set c v) = v := by exact fun _ _ => rfl
  clean : ∀ {c}, TidySections c → Record.Clean (get c)
  listed : Attribute.record name get set ∈ (Record.attributes : List (Attribute Config)) := by
    simp [Record.attributes]

attribute [instance] Section.record Section.flat

namespace Section

def global : Section where
  name := "global"
  get := (·.global)
  set c v := { c with global := v }
  clean := (·.global)

def aws : Section where
  name := "aws"
  get := (·.aws)
  set c v := { c with aws := v }
  clean := (·.aws)

def onprem : Section where
  name := "onprem"
  get := (·.onprem)
  set c v := { c with onprem := v }
  clean := (·.onprem)

def proxy : Section where
  name := "proxy"
  get := (·.proxy)
  set c v := { c with proxy := v }
  clean := (·.proxy)

def cert : Section where
  name := "cert"
  get := (·.cert)
  set c v := { c with cert := v }
  clean := (·.cert)

def sre : Section where
  name := "sre"
  get := (·.sre)
  set c v := { c with sre := v }
  clean := (·.sre)

def smtp : Section where
  name := "smtp"
  get := (·.smtp)
  set c v := { c with smtp := v }
  clean := (·.smtp)

def orch : Section where
  name := "orch"
  get := (·.orch)
  set c v := { c with orch := v }
  clean := (·.orch)

end Section

def sections : List Section :=
  [.global, .aws, .onprem, .proxy, .cert, .sre, .smtp, .orch]

namespace Section

variable (s : Section)

/-- A section comes from the value under its key. -/
theorem ofTree?_of_entry {tree : Tree} {c : Config} (read : Record.ofTree? tree = .ok c)
    {entries : List (Tree × Tree)} (shape : tree.untagged = .mapping entries) {keyTree group : Tree}
    (held : (keyTree, group) ∈ entries) (named : Record.keyText keyTree = .ok s.name) :
    Record.ofTree? group = .ok (s.get c) := by
  obtain ⟨others, seen, done, same | ⟨impossible, _⟩⟩ := Record.ofTree?_eq_ok read
  · cases shape.symm.trans same
    obtain ⟨update, u, updated, written⟩ := Record.write_of_entry s.listed held named done
    obtain ⟨v, value, rfl⟩ := Attribute.read_eq_ok (fun _ => rfl) updated
    have clean : Record.Clean (s.get (s.set u v)) := by
      rw [s.get_set]
      exact Record.clean_of_ofTree? value
    have same := section_injective (s.clean (tidy_of_ofTree? read).toTidySections) clean written
    rw [same, s.get_set, value]
  · cases shape.symm.trans impossible

/-- A section in which something is written is found under its key. -/
theorem get?_toTree {c : Config} (present : Record.isFresh (s.get c) = false) :
    (Record.toTree c).get? s.name = some (Record.toTree (s.get c)) := by
  refine Record.lookup?_of_written s.listed ?_
  unfold Attribute.record
  simp only [present, Bool.false_eq_true, if_false]

/-- A field of a section that is read from any scalar. -/
structure TextField where
  key : String
  get : s.σ → String
  set : s.σ → String → s.σ
  get_set : ∀ r v, get (set r v) = v
  listed : Attribute.text key get set ∈ (Record.attributes : List (Attribute s.σ))

/-- A field comes from the scalar under its key. -/
theorem TextField.scalarText_of_entry {s : Section} (f : s.TextField) {group : Tree} {r : s.σ}
    (read : Record.ofTree? group = .ok r) {entries : List (Tree × Tree)}
    (shape : group.untagged = .mapping entries) {keyTree value : Tree}
    (held : (keyTree, value) ∈ entries) (named : Record.keyText keyTree = .ok f.key) :
    Attribute.scalarText value = .ok (f.get r) := by
  obtain ⟨others, seen, done, same | ⟨impossible, _⟩⟩ := Record.ofTree?_eq_ok read
  · cases shape.symm.trans same
    obtain ⟨update, u, updated, written⟩ := Record.write_of_entry f.listed held named done
    obtain ⟨v, spelled, rfl⟩ := Attribute.read_eq_ok (fun _ => rfl) updated
    rw [(Attribute.text_codes f.get_set).injective written, f.get_set, spelled]
  · cases shape.symm.trans impossible

end Section

end InstallerSetup.Config
