import InstallerSetup.Config.Text
import InstallerSetup.Proofs.Config.Section
import InstallerSetup.Proofs.Config.Steps

/-!
# The round trip of a configuration

A document that has been read is of the current version, and the unknown keys of the document and of
its eight sections are clean (`Config.Tidy`). Edits keep this, and a tidy configuration is written
without tags and reads back as itself, whatever the values of its fields are.
-/

deriving instance DecidableEq for InstallerSetup.Config

namespace InstallerSetup.Config

open InstallerSetup.Yaml (Tree Mismatch)
open Record (Clean)

/-! ## The attributes of a configuration -/

theorem version_sets :
    Attribute.Sets
      { key := "version"
        required := true
        write := fun c => some (.int c.version)
        read := fun tree => do
          let version ← Attribute.word tree
          return fun c => { c with version := version } }
      fun (c : Config) v => { c with version := v } :=
  Attribute.sets_of_read fun _ => rfl

theorem provider_codes :
    Attribute.Codes
      { key := "provider"
        required := false
        write := fun c => c.provider.map fun p => .string p.name
        read := fun tree => do
          let provider ← Provider.ofTree? tree
          return fun c => { c with provider := provider } }
      Config.provider (fun c v => { c with provider := v })
      (Option.map fun p => .string p.name) Provider.ofTree? :=
  Attribute.codes_of_option _ _ _ _ (fun _ _ => rfl) (fun _ => rfl) (fun _ => rfl)
    (fun p => by cases p <;> rfl) fun _ => rfl

theorem section_independent {τ : Type} [Record τ] {key : String} {get : Config → τ}
    {set : Config → τ → Config}
    (extra_set : ∀ c v, Record.extra (set c v) = Record.extra c)
    (get_withExtra : ∀ (c : Config) (e : Extra), get (Record.withExtra c e) = get c)
    (absent : Record.isFresh (get initial) = true)
    (others : ∀ b ∈ (Record.attributes : List (Attribute Config)), b.key ≠ key → ∀ c v,
      b.write (set c v) = b.write c) :
    (Attribute.record key get set).Independent := by
  refine (Attribute.record_sets key get set).independent extra_set ?_ (.inl ⟨rfl, ?_⟩) others
  · intro c e
    unfold Attribute.record
    simp only [get_withExtra]
  · exact if_pos absent

instance : Record.Lawful Config where
  keys_nodup := by decide
  extra_fresh := rfl
  extra_withExtra _ _ := rfl
  independent := by
    simp only [Record.attributes, List.forall_mem_cons]
    refine ⟨version_sets.independent (fun _ _ => rfl) (fun _ _ => rfl) (.inr fun _ => rfl) ?_,
      provider_codes.independent (fun _ _ => rfl) (fun _ _ => rfl) rfl rfl ?_,
      ?_, ?_, ?_, ?_, ?_, ?_, ?_, ?_, nofun⟩
    all_goals try refine section_independent (fun _ _ => rfl) (fun _ _ => rfl) rfl ?_
    all_goals
      simp only [Record.attributes, List.forall_mem_cons]
      refine ⟨?_, ?_, ?_, ?_, ?_, ?_, ?_, ?_, ?_, ?_, nofun⟩
    all_goals
      intro different c v
      first | rfl | trivial

/-! ## Tidy configurations -/

structure TidySections (c : Config) : Prop where
  global : Clean c.global
  aws : Clean c.aws
  onprem : Clean c.onprem
  proxy : Clean c.proxy
  cert : Clean c.cert
  sre : Clean c.sre
  smtp : Clean c.smtp
  orch : Clean c.orch

/-- The unknown keys of a document and of all its sections are clean. -/
structure Tidy (c : Config) : Prop extends TidySections c where
  own : Clean c

/-- Two configurations differ in nothing but the values of known fields other than the version. -/
structure EditOf (c c₀ : Config) : Prop where
  version : c.version = c₀.version
  extra : c.extra = c₀.extra
  global : c.global.extra = c₀.global.extra
  aws : c.aws.extra = c₀.aws.extra
  onprem : c.onprem.extra = c₀.onprem.extra
  proxy : c.proxy.extra = c₀.proxy.extra
  cert : c.cert.extra = c₀.cert.extra
  sre : c.sre.extra = c₀.sre.extra
  smtp : c.smtp.extra = c₀.smtp.extra
  orch : c.orch.extra = c₀.orch.extra

theorem EditOf.refl (c : Config) : EditOf c c :=
  ⟨rfl, rfl, rfl, rfl, rfl, rfl, rfl, rfl, rfl, rfl⟩

theorem EditOf.trans {c d e : Config} (first : EditOf c d) (second : EditOf d e) : EditOf c e where
  version := first.version.trans second.version
  extra := first.extra.trans second.extra
  global := first.global.trans second.global
  aws := first.aws.trans second.aws
  onprem := first.onprem.trans second.onprem
  proxy := first.proxy.trans second.proxy
  cert := first.cert.trans second.cert
  sre := first.sre.trans second.sre
  smtp := first.smtp.trans second.smtp
  orch := first.orch.trans second.orch

theorem Tidy.edit {c₀ c : Config} (tidy : Tidy c₀) (edit : EditOf c c₀) : Tidy c where
  own := Record.clean_of_extra_eq edit.extra tidy.own
  global := Record.clean_of_extra_eq edit.global tidy.global
  aws := Record.clean_of_extra_eq edit.aws tidy.aws
  onprem := Record.clean_of_extra_eq edit.onprem tidy.onprem
  proxy := Record.clean_of_extra_eq edit.proxy tidy.proxy
  cert := Record.clean_of_extra_eq edit.cert tidy.cert
  sre := Record.clean_of_extra_eq edit.sre tidy.sre
  smtp := Record.clean_of_extra_eq edit.smtp tidy.smtp
  orch := Record.clean_of_extra_eq edit.orch tidy.orch

theorem tidySections_initial : TidySections initial where
  global := Record.clean_fresh
  aws := Record.clean_fresh
  onprem := Record.clean_fresh
  proxy := Record.clean_fresh
  cert := Record.clean_fresh
  sre := Record.clean_fresh
  smtp := Record.clean_fresh
  orch := Record.clean_fresh

/-- A section that is read is clean. -/
theorem record_keeps {τ : Type} [Record τ] [Record.Lawful τ] {key : String} {get : Config → τ}
    {set : Config → τ → Config} {P : Config → Prop} (keeps : ∀ c v, Clean v → P c → P (set c v))
    (tree : Tree) (update : Config → Config)
    (read : (Attribute.record key get set).read tree = .ok update) (c : Config) (holds : P c) :
    P (update c) := by
  obtain ⟨v, value, rfl⟩ := Attribute.read_eq_ok (fun _ => rfl) read
  exact keeps c v (Record.clean_of_ofTree? value) holds

theorem tidySections_of_read : ∀ a ∈ (Record.attributes : List (Attribute Config)),
    ∀ tree update, a.read tree = .ok update → ∀ c, TidySections c → TidySections (update c) := by
  simp only [Record.attributes, List.forall_mem_cons]
  refine ⟨?_, ?_, record_keeps fun c v clean tidy => { tidy with global := clean },
    record_keeps fun c v clean tidy => { tidy with aws := clean },
    record_keeps fun c v clean tidy => { tidy with onprem := clean },
    record_keeps fun c v clean tidy => { tidy with proxy := clean },
    record_keeps fun c v clean tidy => { tidy with cert := clean },
    record_keeps fun c v clean tidy => { tidy with sre := clean },
    record_keeps fun c v clean tidy => { tidy with smtp := clean },
    record_keeps fun c v clean tidy => { tidy with orch := clean }, nofun⟩
  · intro tree update read c tidy
    obtain ⟨version, rfl⟩ := version_sets tree update read
    exact { tidy with }
  · intro tree update read c tidy
    obtain ⟨provider, rfl⟩ := provider_codes.sets tree update read
    exact { tidy with }

/-- Whatever is read is tidy. -/
theorem tidy_of_ofTree? {tree : Tree} {c : Config} (read : Record.ofTree? tree = .ok c) :
    Tidy c where
  own := Record.clean_of_ofTree? read
  toTidySections := by
    refine Record.ofTree?_induction tidySections_initial tidySections_of_read ?_ read
    intro c key value _ _ tidy
    exact { tidy with }

/-! ## The version of a document -/

/-- The value that a key leads to stands under a text with that key. -/
theorem mem_of_lookup? {entries : List (Tree × Tree)} {key : String} {value : Tree}
    (found : Tree.lookup? entries key = some value) : (.string key, value) ∈ entries := by
  obtain ⟨entry, first, rfl⟩ := Option.map_eq_some_iff.1 found
  have member := List.mem_of_find?_eq_some first
  have named := List.find?_some first
  obtain ⟨keyTree, tree⟩ := entry
  cases keyTree <;> simp at named
  subst named
  exact member

theorem word_of_untagged {value : Tree} (shape : value.untagged = .int currentVersion) :
    Attribute.word value = .ok currentVersion := by
  unfold Attribute.word
  rw [shape]
  rfl

theorem ofTree_eq_ok_iff {tree : Tree} {c : Config} :
    ofTree tree = .ok c ↔ Record.ofTree? tree = .ok c := by
  unfold ofTree
  split
  · next read => rw [read, Except.ok.injEq, Except.ok.injEq]
  · next read => simp [read]

/-- A text is read as a tree that is brought up to date and then read as a document. -/
theorem ofText_eq_ok {text : String} {c : Config} (read : ofText text = .ok c) :
    ∃ tree log migrated, migrate tree = .ok (log, migrated) ∧ Record.ofTree? migrated = .ok c := by
  unfold ofText parse at read
  split at read
  · cases read
  · next tree _ =>
      split at read
      · cases read
      · next log migrated updated =>
          exact ⟨tree, log, migrated, updated, ofTree_eq_ok_iff.1 read⟩

theorem ofText_of_migrate {text : String} {tree migrated : Tree} {log : Log}
    (shape : Tree.ofText? text = .ok tree) (updated : migrate tree = .ok (log, migrated)) :
    ofText text = ofTree migrated := by
  unfold ofText parse
  simp only [shape, updated]

theorem ofText_of_tree {text : String} {tree migrated : Tree} {log : Log} {c : Config}
    (shape : Tree.ofText? text = .ok tree) (updated : migrate tree = .ok (log, migrated))
    (done : Record.ofTree? migrated = .ok c) : ofText text = .ok c :=
  (ofText_of_migrate shape updated).trans (ofTree_eq_ok_iff.2 done)

theorem tidy_of_ofText {text : String} {c : Config} (read : ofText text = .ok c) : Tidy c := by
  obtain ⟨_, _, _, _, done⟩ := ofText_eq_ok read
  exact tidy_of_ofTree? done

/-- Every document that can be read ends up with the current version. -/
theorem version_of_ofText {text : String} {c : Config} (read : ofText text = .ok c) :
    c.version = currentVersion := by
  obtain ⟨_, _, _, updated, done⟩ := ofText_eq_ok read
  obtain ⟨entries, value, rfl, listed, shape⟩ := version_of_migrate updated
  obtain ⟨given, seen, entriesRead, same | ⟨impossible, _⟩⟩ := Record.ofTree?_eq_ok done
  · cases same
    obtain ⟨update, d, stored, written⟩ :=
      Record.write_of_entry (List.mem_cons_self (l := _)) (mem_of_lookup? listed) rfl entriesRead
    obtain ⟨version, word, rfl⟩ := Attribute.read_eq_ok (fun _ => rfl) stored
    cases (word_of_untagged shape).symm.trans word
    have same := Option.some.inj written
    exact Int.ofNat.inj (Tree.int.inj same)
  · cases impossible

/-! ## Reading back -/

theorem section_restores {τ : Type} [Record τ] [Record.Flat τ] {key : String} {get : Config → τ}
    {set : Config → τ → Config} (get_set : ∀ c v, get (set c v) = v) {c : Config}
    (clean : Clean (get c)) : (Attribute.record key get set).Restores c := by
  intro tree written
  unfold Attribute.record at written
  simp only at written
  split at written
  · cases written
  · next present =>
      cases written
      refine ⟨fun d => set d (get c), ?_, fun d => ?_⟩
      · unfold Attribute.record
        simp only [Record.Flat.ofTree?_toTree clean]
        rfl
      · unfold Attribute.record
        simp only [get_set]
        exact if_neg present

theorem section_injective {τ : Type} [Record τ] [Record.Flat τ] {key : String} {get : Config → τ}
    {set : Config → τ → Config} {c d : Config} (clean : Clean (get c)) (clean' : Clean (get d))
    (same : (Attribute.record key get set).write c = (Attribute.record key get set).write d) :
    get c = get d := by
  refine Record.Flat.toTree_injective clean clean' ?_
  unfold Attribute.record at same
  simp only at same
  split at same <;> split at same
  · next fresh fresh' =>
      have empty := List.isEmpty_iff.1 fresh
      have empty' := List.isEmpty_iff.1 fresh'
      unfold Record.toTree
      rw [empty, empty']
  · cases same
  · cases same
  · exact Option.some.inj same

theorem hasTag_section {τ : Type} [Record τ] [Record.Flat τ] {key : String} {get : Config → τ}
    {set : Config → τ → Config} {c : Config} (clean : Clean (get c)) (tree : Tree)
    (written : (Attribute.record key get set).write c = some tree) : tree.hasTag = false := by
  unfold Attribute.record at written
  simp only at written
  split at written
  · cases written
  · cases written
    exact Record.Flat.hasTag_toTree clean

namespace Tidy

variable {c d : Config}

/-- A tidy configuration is written without tags. -/
theorem hasTag_toTree (tidy : Tidy c) : (Record.toTree c).hasTag = false := by
  refine Record.hasTag_toTree tidy.own ?_
  simp only [Record.attributes, List.forall_mem_cons]
  refine ⟨?_, ?_, hasTag_section tidy.global, hasTag_section tidy.aws, hasTag_section tidy.onprem,
    hasTag_section tidy.proxy, hasTag_section tidy.cert, hasTag_section tidy.sre,
    hasTag_section tidy.smtp, hasTag_section tidy.orch, nofun⟩
  · intro tree written
    cases written
    rfl
  · exact fun tree written => provider_codes.hasTag_write written

theorem restores (tidy : Tidy c) (version : c.version = currentVersion) :
    ∀ a ∈ (Record.attributes : List (Attribute Config)), a.Restores c := by
  simp only [Record.attributes, List.forall_mem_cons]
  refine ⟨?_, provider_codes.restores c, section_restores (fun _ _ => rfl) tidy.global,
    section_restores (fun _ _ => rfl) tidy.aws, section_restores (fun _ _ => rfl) tidy.onprem,
    section_restores (fun _ _ => rfl) tidy.proxy, section_restores (fun _ _ => rfl) tidy.cert,
    section_restores (fun _ _ => rfl) tidy.sre, section_restores (fun _ _ => rfl) tidy.smtp,
    section_restores (fun _ _ => rfl) tidy.orch, nofun⟩
  intro tree written
  cases written
  refine ⟨fun d => { d with version := currentVersion }, ?_, fun d => ?_⟩
  · simp only [version]
    rfl
  · simp only [version]

/-- Tidy configurations that are written alike are equal. -/
theorem eq_of_write (tidy : Tidy c) (tidy' : Tidy d) (extra : c.extra = d.extra)
    (same : ∀ a ∈ (Record.attributes : List (Attribute Config)), a.write c = a.write d) :
    c = d := by
  simp only [Record.attributes, List.forall_mem_cons] at same
  obtain ⟨version, provider, global, aws, onprem, proxy, cert, sre, smtp, orch, _⟩ := same
  have version_eq : c.version = d.version := Int.ofNat.inj (Tree.int.inj (Option.some.inj version))
  have provider_eq := provider_codes.injective provider
  have global_eq := section_injective tidy.global tidy'.global global
  have aws_eq := section_injective tidy.aws tidy'.aws aws
  have onprem_eq := section_injective tidy.onprem tidy'.onprem onprem
  have proxy_eq := section_injective tidy.proxy tidy'.proxy proxy
  have cert_eq := section_injective tidy.cert tidy'.cert cert
  have sre_eq := section_injective tidy.sre tidy'.sre sre
  have smtp_eq := section_injective tidy.smtp tidy'.smtp smtp
  have orch_eq := section_injective tidy.orch tidy'.orch orch
  cases c
  cases d
  simp only at *
  subst_vars
  rfl

/-- A tidy configuration of the current version reads back as itself. -/
theorem ofTree?_toTree (tidy : Tidy c) (version : c.version = currentVersion) :
    Record.ofTree? (Record.toTree c) = .ok c := by
  obtain ⟨d, read, extra, same⟩ := Record.ofTree?_toTree tidy.own (tidy.restores version)
  rw [read, eq_of_write (tidy_of_ofTree? read) tidy extra same]

end Tidy

/-- What is written of a configuration of the current version needs no migration. -/
theorem migrate_toTree {c : Config} (version : c.version = currentVersion) :
    migrate (Record.toTree c) = .ok ([], Record.toTree c) := by
  have claimed : version? (Record.toTree c) = .ok (currentVersion : Int) := by
    change (if ((c.version : Nat) : Int) < versionLimit then Except.ok ((c.version : Nat) : Int)
      else Except.error (Failure.documentMalformed .version)) = _
    rw [version]
    rfl
  exact migrate_of_version claimed

/-- Whatever is edited in a document that has been read, the result is written and reads back. -/
theorem ofText_render_of_editOf {text : String} {c₀ c : Config} (read : ofText text = .ok c₀)
    (edit : EditOf c c₀)
    (reads_back : (Record.toTree c).hasTag = false →
      Tree.ofText? (Record.toTree c).render = .ok (Record.toTree c)) :
    (Record.toTree c).hasTag = false ∧ ofText c.render = .ok c := by
  have tidy := (tidy_of_ofText read).edit edit
  have version := edit.version.trans (version_of_ofText read)
  refine ⟨tidy.hasTag_toTree, ?_⟩
  exact ofText_of_tree (reads_back tidy.hasTag_toTree) (migrate_toTree version)
    (tidy.ofTree?_toTree version)

/-! ### A document with unknown keys -/

def notedText : String := "version: 2\nsite: [7, on]\nproxy:\n  team: \"12\"\n"

def noted : Config :=
  { initial with
    extra := .ofList [("site", .sequence [.int 7, .string "on"])]
    proxy := { initial.proxy with extra := .ofList [("team", .string "12")] } }

/-- Texts that look like other scalars, and a certificate of several lines. -/
def notedEdit : Config :=
  { noted with
    global := { noted.global with orchName := "0x10", parentDomain := "null" }
    cert := { noted.cert with tlsCert := "-----\nMIIB\n" } }

theorem ofText_render_notedEdit :
    ofText notedText = .ok noted ∧ EditOf notedEdit noted ∧
      ofText notedEdit.render = .ok notedEdit := by
  have read : ofText notedText = .ok noted := Except.eq_ok_of_toOption (by decide +kernel)
  have edit : EditOf notedEdit noted := ⟨rfl, rfl, rfl, rfl, rfl, rfl, rfl, rfl, rfl, rfl⟩
  have back : Tree.ofText? (Record.toTree notedEdit).render = .ok (Record.toTree notedEdit) :=
    Except.eq_ok_of_toOption (by decide +kernel)
  exact ⟨read, edit, (ofText_render_of_editOf read edit fun _ => back).2⟩

end InstallerSetup.Config
