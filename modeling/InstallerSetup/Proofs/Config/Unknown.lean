import InstallerSetup.Proofs.Config.Place
import InstallerSetup.Proofs.Yaml.Reader

/-!
# Unknown keys

A document and each of its eight sections may hold keys that the installer does not know. If these
keys are texts and no tag stands in their values, they never keep a document from being loaded, and
what is written of the document has all of them with their values, at their places.
-/

namespace InstallerSetup.Config

open InstallerSetup.Yaml (Tree Mismatch)
open Record (Harmless IsUnknown)

/-! ## Where unknown keys stand -/

def sectionOf? (keyTree : Tree) : Option Section :=
  sections.find? fun s => isOneOf [s.name] keyTree

def knownPart (keys : List String) : Tree → Tree := editEntries (isOneOf keys) fun _ value => value

/-- A document without unknown keys of its own and of its sections. -/
def withoutUnknown : Tree → Tree :=
  editEntries (isOneOf (knownKeys Config)) fun keyTree value =>
    match sectionOf? keyTree with
    | some s => knownPart (knownKeys s.σ) value
    | none => value

/-- A document has an unknown key with a value, either itself or in a section. -/
inductive UnknownAt (tree : Tree) : Option String → Tree → Tree → Prop where
  | top {entries : List (Tree × Tree)} {key value : Tree} (shape : tree = .mapping entries)
      (listed : (key, value) ∈ entries) (unknown : isOneOf (knownKeys Config) key = false) :
      UnknownAt tree none key value
  | inSection {entries inner : List (Tree × Tree)} {sectionKey group key value : Tree}
      {s : Section} (isSection : s ∈ sections) (shape : tree = .mapping entries)
      (held : (sectionKey, group) ∈ entries) (named : Record.keyText sectionKey = .ok s.name)
      (inside : group.untagged = .mapping inner) (listed : (key, value) ∈ inner)
      (unknown : isOneOf (knownKeys s.σ) key = false) :
      UnknownAt tree (some s.name) key value

/-- A document has a value under a text key, either itself or in a section. -/
def FoundAt (tree : Tree) : Option String → String → Tree → Prop
  | none, key, value => tree.get? key = some value
  | some name, key, value => ∃ group, tree.get? name = some group ∧ group.get? key = some value

/-- All unknown keys of a document are texts, and no tag stands in their values. -/
def PlainUnknown (tree : Tree) : Prop :=
  ∀ place key value, UnknownAt tree place key value →
    (∃ name, key = .string name) ∧ value.hasTag = false

/-! ## Loading -/

theorem mem_of_sectionOf? {keyTree : Tree} {s : Section} (found : sectionOf? keyTree = some s) :
    s ∈ sections ∧ Record.keyText keyTree = .ok s.name := by
  have named := List.find?_some found
  exact ⟨List.mem_of_find?_eq_some found, isOneOf_singleton_iff.1 named⟩

theorem not_mem_of_isOneOf {keys : List String} {name : String}
    (unknown : isOneOf keys (.string name) = false) : name ∉ keys := by
  intro member
  have listed : isOneOf keys (.string name) = true := List.contains_iff_mem.2 member
  rw [unknown] at listed
  cases listed

theorem isUnknown_of_plain {σ : Type} [Record σ] {key value : Tree}
    (unknown : isOneOf (knownKeys σ) key = false)
    (plain : (∃ name, key = .string name) ∧ value.hasTag = false) : IsUnknown σ (key, value) := by
  obtain ⟨⟨name, rfl⟩, tagless⟩ := plain
  exact ⟨name, rfl, Record.attribute?_eq_none_iff.2 (not_mem_of_isOneOf unknown), tagless⟩

/-- A section can be read if it can be read without its unknown keys. -/
theorem exists_ofTree?_of_knownPart {τ : Type} [Record τ] {group : Tree} {v : τ}
    (read : Record.ofTree? (knownPart (knownKeys τ) group) = .ok v)
    (plain : ∀ inner, group.untagged = .mapping inner → ∀ entry ∈ inner,
      isOneOf (knownKeys τ) entry.1 = false → IsUnknown τ entry) :
    ∃ w : τ, Record.ofTree? group = .ok w := by
  refine Record.exists_ofTree?_of_edited read fun inner inside entry listed => ?_
  constructor
  case dropped => exact plain inner inside entry listed
  case known => exact fun _ _ _ _ _ update updated => ⟨update, updated⟩
  case unknown => exact fun _ _ _ _ tagless => tagless

/-- A document can be read if it can be read without unknown keys. -/
theorem exists_ofTree?_of_withoutUnknown {entries : List (Tree × Tree)} {c₀ : Config}
    (read : Record.ofTree? (withoutUnknown (.mapping entries)) = .ok c₀)
    (plain : PlainUnknown (.mapping entries)) :
    ∃ c : Config, Record.ofTree? (.mapping entries) = .ok c := by
  refine Record.exists_ofTree?_of_edited read fun others same entry listed => ?_
  cases same
  obtain ⟨keyTree, value⟩ := entry
  constructor
  case dropped =>
    intro unknown
    exact isUnknown_of_plain unknown (plain none keyTree value (.top rfl listed unknown))
  case known =>
    intro _ name named a found update updated
    cases which : sectionOf? keyTree with
    | none =>
        simp only [which] at updated
        exact ⟨update, updated⟩
    | some s =>
        simp only [which] at updated
        obtain ⟨isSection, named'⟩ := mem_of_sectionOf? which
        cases named.symm.trans named'
        obtain rfl : Attribute.record s.name s.get s.set = a :=
          Option.some.inj ((Record.attribute?_of_mem s.listed).symm.trans found)
        obtain ⟨v, value_read, _⟩ := Attribute.read_eq_ok (fun _ => rfl) updated
        obtain ⟨w, read'⟩ := exists_ofTree?_of_knownPart value_read
          fun inner inside other within unknown =>
            isUnknown_of_plain unknown
              (plain (some s.name) other.1 other.2
                (.inSection isSection rfl listed named inside within unknown))
        exact ⟨_, Attribute.read_record read'⟩
  case unknown =>
    intro _ name named absent tagless
    cases which : sectionOf? keyTree with
    | none =>
        simp only [which] at tagless
        exact tagless
    | some s =>
        obtain ⟨_, named'⟩ := mem_of_sectionOf? which
        cases named.symm.trans named'
        cases absent.symm.trans (Record.attribute?_of_mem s.listed)

/-! ## Survival -/

/-- An unknown key comes once in a mapping whose keys are different. -/
theorem once_of_keysApart {keys : List String} {entries : List (Tree × Tree)}
    (apart : Tree.KeysApart entries)
    (strings : ∀ entry ∈ entries, isOneOf keys entry.1 = false → ∃ name, entry.1 = .string name)
    {key : String} (unknown : isOneOf keys (.string key) = false) :
    entries.Pairwise fun earlier later =>
      Record.keyText earlier.1 = .ok key → Record.keyText later.1 ≠ .ok key := by
  have plain : ∀ entry ∈ entries, Record.keyText entry.1 = .ok key → entry.1 = .string key := by
    intro entry member named
    have alike : isOneOf keys entry.1 = isOneOf keys (.string key) := by
      unfold isOneOf
      rw [named]
      rfl
    obtain ⟨name, same⟩ := strings entry member (alike.trans unknown)
    rw [same] at named ⊢
    cases named
    rfl
  refine apart.imp_of_mem fun first second different named named' => ?_
  rw [plain _ first named, plain _ second named'] at different
  simp [Tree.same] at different

/-- A record that is read from a mapping is written with the mapping's unknown keys. -/
theorem get?_toTree_of_mem {σ : Type} [Record σ] [Record.Lawful σ] {tree : Tree} {s : σ}
    (read : Record.ofTree? tree = .ok s) {entries : List (Tree × Tree)}
    (shape : tree.untagged = .mapping entries) (apart : Tree.KeysApart entries)
    (strings : ∀ entry ∈ entries, isOneOf (knownKeys σ) entry.1 = false →
      ∃ name, entry.1 = .string name)
    {key : String} {value : Tree} (listed : (.string key, value) ∈ entries)
    (unknown : isOneOf (knownKeys σ) (.string key) = false) :
    (Record.toTree s).get? key = some value := by
  obtain ⟨others, seen, done, same | ⟨impossible, _⟩⟩ := Record.ofTree?_eq_ok read
  · cases shape.symm.trans same
    have absent := not_mem_of_isOneOf unknown
    change Tree.lookup? (Record.entries s) key = some value
    rw [Record.lookup?_of_unknown absent]
    exact Record.get?_extra_of_mem absent (once_of_keysApart apart strings unknown) listed done
  · rw [shape] at impossible
    cases impossible

theorem isFresh_of_get? {σ : Type} [Record σ] {s : σ} {key : String} {value : Tree}
    (found : (Record.toTree s).get? key = some value) : Record.isFresh s = false := by
  change Tree.lookup? (Record.entries s) key = some value at found
  unfold Record.isFresh
  cases written : Record.entries s with
  | nil =>
      rw [written] at found
      cases found
  | cons entry rest => rfl

/-- What is written of a document has its unknown keys at their places. -/
theorem foundAt_of_unknownAt {tree : Tree} (keyed : Tree.WellKeyed tree)
    (plain : PlainUnknown tree) {c : Config} (read : Record.ofTree? tree = .ok c)
    {place : Option String} {key : String} {value : Tree}
    (unknownAt : UnknownAt tree place (.string key) value) :
    FoundAt (Record.toTree c) place key value := by
  cases unknownAt with
  | top shape listed unknown =>
      subst shape
      obtain ⟨apart, _⟩ := keyed.of_untagged rfl
      refine get?_toTree_of_mem read rfl apart (fun entry member other => ?_) listed unknown
      exact (plain none entry.1 entry.2 (.top rfl member other)).1
  | @inSection entries inner sectionKey group _ _ s isSection shape held named inside listed
      unknown =>
      subst shape
      obtain ⟨_, each⟩ := keyed.of_untagged rfl
      obtain ⟨apart, _⟩ := (each _ held).of_untagged inside
      have group_read := s.ofTree?_of_entry read rfl held named
      have found := get?_toTree_of_mem group_read inside apart (fun entry within other =>
        (plain (some s.name) entry.1 entry.2
          (.inSection isSection rfl held named inside within other)).1) listed unknown
      exact ⟨_, s.get?_toTree (isFresh_of_get? found), found⟩

/--
Unknown keys do not keep a document of the current version from being loaded, and if the text that
is written of it reads back as its tree, they are found there with their values at their places.
-/
theorem unknown_keys_survive {text : String} {tree : Tree} {c₀ : Config}
    (shape : Tree.ofText? text = .ok tree) (version : version? tree = .ok currentVersion)
    (loads : ofTree (withoutUnknown tree) = .ok c₀) (plain : PlainUnknown tree) :
    ∃ c, ofText text = .ok c ∧
      (((Record.toTree c).hasTag = false → Tree.ofText? c.render = .ok (Record.toTree c)) →
        ∃ back, Tree.ofText? c.render = .ok back ∧
          ∀ place key value, UnknownAt tree place (.string key) value →
            FoundAt back place key value) := by
  obtain ⟨entries, rfl, _⟩ := claims_of_version? version
  obtain ⟨c, read⟩ := exists_ofTree?_of_withoutUnknown (ofTree_eq_ok_iff.1 loads) plain
  have loaded := ofText_of_current shape version read
  refine ⟨c, loaded, fun reads_back => ?_⟩
  refine ⟨Record.toTree c, reads_back (tidy_of_ofText loaded).hasTag_toTree, ?_⟩
  intro place key value unknownAt
  exact foundAt_of_unknownAt (Tree.wellKeyed_of_ofText? shape) plain read unknownAt

/-! ### Documents with unknown keys -/

/-- Unknown keys at the top and in a section, one of them with a mapping that has other keys. -/
def annotatedText : String :=
  "version: 2\nsite: \x7b1: ~, 2.5: [on]\x7d\nproxy:\n  httpProxy: p\n  team: 0x0c\n"

def annotatedSite : Tree :=
  .mapping [(.int 1, .null), (.float (.ofDecimal false 25 (-1)), .sequence [.string "on"])]

def annotatedTree : Tree :=
  .mapping
    [(.string "version", .int 2), (.string "site", annotatedSite),
      (.string "proxy", .mapping [(.string "httpProxy", .string "p"), (.string "team", .int 12)])]

def annotated : Config :=
  { initial with
    extra := .ofList [("site", annotatedSite)]
    proxy := { initial.proxy with httpProxy := "p", extra := .ofList [("team", .int 12)] } }

theorem plainUnknown_annotated : PlainUnknown annotatedTree := by
  intro place key value unknownAt
  cases unknownAt with
  | top shape listed _ =>
      cases shape
      simp only [List.mem_cons, Prod.mk.injEq, List.not_mem_nil, or_false] at listed
      rcases listed with ⟨rfl, rfl⟩ | ⟨rfl, rfl⟩ | ⟨rfl, rfl⟩
      all_goals exact ⟨⟨_, rfl⟩, rfl⟩
  | inSection isSection shape held named inside listed _ =>
      cases shape
      simp only [List.mem_cons, Prod.mk.injEq, List.not_mem_nil, or_false] at held
      rcases held with ⟨rfl, rfl⟩ | ⟨rfl, rfl⟩ | ⟨rfl, rfl⟩
      · cases inside
      · have names := List.mem_map_of_mem (f := Section.name) isSection
        rw [← Except.ok.inj named] at names
        exact absurd names (by decide)
      · cases inside
        simp only [List.mem_cons, Prod.mk.injEq, List.not_mem_nil, or_false] at listed
        rcases listed with ⟨rfl, rfl⟩ | ⟨rfl, rfl⟩
        all_goals exact ⟨⟨_, rfl⟩, rfl⟩

theorem unknown_keys_survive_annotated :
    ofText annotatedText = .ok annotated ∧
      ∃ back, Tree.ofText? annotated.render = .ok back ∧ FoundAt back none "site" annotatedSite ∧
        FoundAt back (some "proxy") "team" (.int 12) := by
  have shape : Tree.ofText? annotatedText = .ok annotatedTree :=
    Except.eq_ok_of_toOption (by decide +kernel)
  have version : version? annotatedTree = .ok currentVersion :=
    Except.eq_ok_of_toOption (by decide +kernel)
  have loads : ofTree (withoutUnknown annotatedTree) =
      .ok { initial with proxy := { initial.proxy with httpProxy := "p" } } :=
    Except.eq_ok_of_toOption (by decide +kernel)
  have read : ofText annotatedText = .ok annotated := Except.eq_ok_of_toOption (by decide +kernel)
  have reads_back : Tree.ofText? annotated.render = .ok (Record.toTree annotated) :=
    Except.eq_ok_of_toOption (by decide +kernel)
  obtain ⟨c, loaded, written⟩ := unknown_keys_survive shape version loads plainUnknown_annotated
  obtain rfl := Except.ok.inj (read.symm.trans loaded)
  obtain ⟨back, written, survives⟩ := written fun _ => reads_back
  have site : UnknownAt annotatedTree none (.string "site") annotatedSite :=
    .top rfl (List.mem_cons_of_mem _ List.mem_cons_self) (by decide)
  have team : UnknownAt annotatedTree (some "proxy") (.string "team") (.int 12) :=
    .inSection (s := .proxy) (by simp [sections]) rfl
      (List.mem_cons_of_mem _ (List.mem_cons_of_mem _ List.mem_cons_self)) rfl rfl
      (List.mem_cons_of_mem _ List.mem_cons_self) (by decide)
  exact ⟨read, back, written, survives none "site" annotatedSite site,
    survives (some "proxy") "team" (.int 12) team⟩

def withEntry (key value : Tree) : Tree :=
  .mapping [(.string "version", .int 2), (key, value)]

/--
An unknown key that is a number keeps a document from being loaded, and so does a tag in the value
of an unknown key; a tag on the key itself is lost.
-/
theorem unknown_keys_refused :
    (∃ tree, Tree.ofText? "version: 2\n7: x\n" = .ok tree ∧
        version? tree = .ok currentVersion ∧ ofTree (withoutUnknown tree) = .ok initial ∧
        ∀ c, ofText "version: 2\n7: x\n" ≠ .ok c) ∧
      (∃ tree, Tree.ofText? "version: 2\nnote: !t x\n" = .ok tree ∧
        version? tree = .ok currentVersion ∧ ofTree (withoutUnknown tree) = .ok initial ∧
        ∀ c, ofText "version: 2\nnote: !t x\n" ≠ .ok c) ∧
      ∃ tree c, Tree.ofText? "version: 2\n!t note: x\n" = .ok tree ∧
        UnknownAt tree none (.tagged "t" (.string "note")) (.string "x") ∧
        ofText "version: 2\n!t note: x\n" = .ok c ∧
        Tree.ofText? c.render =
          .ok (.mapping [(.string "version", .int 2), (.string "note", .string "x")]) := by
  have number_read : Tree.ofText? "version: 2\n7: x\n" = .ok (withEntry (.int 7) (.string "x")) :=
    Except.eq_ok_of_toOption (by decide +kernel)
  have value_read : Tree.ofText? "version: 2\nnote: !t x\n" =
      .ok (withEntry (.string "note") (.tagged "t" (.string "x"))) :=
    Except.eq_ok_of_toOption (by decide +kernel)
  have key_read : Tree.ofText? "version: 2\n!t note: x\n" =
      .ok (withEntry (.tagged "t" (.string "note")) (.string "x")) :=
    Except.eq_ok_of_toOption (by decide +kernel)
  have loaded : ofText "version: 2\n!t note: x\n" =
      .ok { initial with extra := .ofList [("note", .string "x")] } :=
    Except.eq_ok_of_toOption (by decide +kernel)
  have written : Tree.ofText? { initial with extra := .ofList [("note", .string "x")] }.render =
      .ok (withEntry (.string "note") (.string "x")) :=
    Except.eq_ok_of_toOption (by decide +kernel)
  refine ⟨⟨_, number_read, rfl, ?_, ?_⟩, ⟨_, value_read, rfl, ?_, ?_⟩,
    _, _, key_read, ?_, loaded, written⟩
  · exact Except.eq_ok_of_toOption (by decide +kernel)
  · exact Except.ne_ok_of_toOption (by decide +kernel)
  · exact Except.eq_ok_of_toOption (by decide +kernel)
  · exact Except.ne_ok_of_toOption (by decide +kernel)
  · exact .top rfl (List.mem_cons_of_mem _ List.mem_cons_self) (by decide)

end InstallerSetup.Config
