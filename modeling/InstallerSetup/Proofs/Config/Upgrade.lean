import InstallerSetup.Proofs.Config.Migration
import InstallerSetup.Proofs.Config.Place

/-!
# Documents of version 1

What is loaded from a document of version 1 is made of five of its values (`upgraded`), and it is
loaded if and only if these have shapes that can be carried over (`IsUpgradable`). The mapping that
migration writes gives values for some attributes of a record (`Record.entriesWith`), and reading
such a mapping stores these values one after the other (`Record.ofTree?_entriesWith`).
-/

namespace InstallerSetup.Yaml.Tree

def at? (tree : Tree) : List String → Option Tree
  | [] => some tree
  | key :: path => (tree.get? key).bind fun value => value.at? path

end InstallerSetup.Yaml.Tree

namespace InstallerSetup.Config

open InstallerSetup.Yaml (Tree Mismatch)

/-! ## Reading given values -/

namespace Record

variable {σ : Type}

/-- The entries that give values for some attributes. -/
def entriesWith : List (Attribute σ) → List (Option Tree) → List (Tree × Tree)
  | a :: as, value :: values => givenEntry a.key value ++ entriesWith as values
  | _, _ => []

def keysWith : List (Attribute σ) → List (Option Tree) → List String
  | a :: as, some _ :: values => a.key :: keysWith as values
  | _ :: as, none :: values => keysWith as values
  | _, _ => []

def readWith : List (Attribute σ) → List (Option Tree) → σ → Except Mismatch σ
  | a :: as, some value :: values, s => do
      let update ← a.read value
      readWith as values (update s)
  | _ :: as, none :: values, s => readWith as values s
  | _, _, s => .ok s

variable [Record σ]

theorem readEntries_refused {a : Attribute σ} (found : attribute? a.key = some a) {value : Tree}
    {reason : Mismatch} (refused : a.read value = .error reason) {seen : List String}
    (unseen : a.key ∉ seen) (rest : List (Tree × Tree)) (s : σ) :
    readEntries ((.string a.key, value) :: rest) seen s = .error reason := by
  rw [readEntries, show keyText (.string a.key) = .ok a.key from rfl]
  simp [found, unseen, refused]

variable [Lawful σ]

theorem readEntries_entriesWith {as : List (Attribute σ)}
    (listed : ∀ a ∈ as, a ∈ (attributes : List (Attribute σ)))
    (distinct : (as.map Attribute.key).Nodup) (values : List (Option Tree)) {seen : List String}
    (unseen : ∀ a ∈ as, a.key ∉ seen) (s : σ) :
    readEntries (entriesWith as values) seen s =
      (readWith as values s).map fun t => ((keysWith as values).reverse ++ seen, t) := by
  induction as generalizing values seen s with
  | nil => rfl
  | cons a as ih =>
      obtain ⟨apart, others⟩ := List.nodup_cons.1 distinct
      obtain ⟨member, listed'⟩ := List.forall_mem_cons.1 listed
      obtain ⟨first, unseen'⟩ := List.forall_mem_cons.1 unseen
      cases values with
      | nil => rfl
      | cons value values =>
          cases value with
          | none => exact ih listed' others values unseen' s
          | some tree =>
              have further : ∀ b ∈ as, b.key ∉ a.key :: seen := by
                intro b later found
                rcases List.mem_cons.1 found with same | before
                · exact apart (same ▸ List.mem_map.2 ⟨b, later, rfl⟩)
                · exact unseen' b later before
              simp only [entriesWith, givenEntry, Option.map_some, Option.toList_some,
                List.cons_append, List.nil_append, keysWith, readWith]
              cases result : a.read tree with
              | error reason =>
                  exact readEntries_refused (attribute?_of_mem member) result first _ s
              | ok update =>
                  rw [readEntries_known member result first, ih listed' others values further]
                  simp [bind, Except.bind]

/-- A mapping with values for the attributes of a record is read by storing them. -/
theorem ofTree?_entriesWith {values : List (Option Tree)}
    (complete : ∀ a ∈ (attributes : List (Attribute σ)), a.required = true →
      a.key ∈ keysWith (attributes : List (Attribute σ)) values) :
    (ofTree? (.mapping (entriesWith (attributes : List (Attribute σ)) values)) :
      Except Mismatch σ) = readWith attributes values fresh := by
  have whole : missing? σ ((keysWith (attributes : List (Attribute σ)) values).reverse ++ []) =
      none := by
    refine missing?_eq_none_iff.2 fun a member required => ?_
    rw [List.append_nil, List.mem_reverse]
    exact complete a member required
  unfold ofTree?
  simp only [Tree.untagged]
  rw [readEntries_entriesWith (fun _ member => member) Lawful.keys_nodup values
    (fun _ _ => List.not_mem_nil)]
  cases result : readWith (attributes : List (Attribute σ)) values fresh with
  | error reason => rfl
  | ok t =>
      simp only [Except.map, bind, Except.bind, whole]
      rfl

section

variable {σ : Type} {as : List (Attribute σ)} {values : List (Option Tree)} {s : σ}

theorem readWith_given {a : Attribute σ} {tree : Tree} {update : σ → σ}
    (updated : a.read tree = .ok update) :
    readWith (a :: as) (some tree :: values) s = readWith as values (update s) := by
  simp only [readWith, updated, bind, Except.bind]

/-- What is given for the first attribute is stored first. -/
theorem readWith_cons {β : Type} {a : Attribute σ} {set : σ → β → σ}
    {decode : Tree → Except Mismatch β}
    (reads : ∀ tree, a.read tree = (do let v ← decode tree; return fun s => set s v))
    {absent : β} (rests : set s absent = s) (value : Option Tree) :
    readWith (a :: as) (value :: values) s =
      (do
        let v ← value.elim (.ok absent) decode
        readWith as values (set s v)) := by
  cases value with
  | none => simp only [readWith, Option.elim_none, bind, Except.bind, rests]
  | some tree =>
      simp only [readWith, reads, Option.elim_some]
      cases decode tree <;> rfl

end

end Record

def givenSection (entries : List (Tree × Tree)) : Option Tree :=
  if entries.isEmpty then none else some (.mapping entries)

theorem givenEntry_none (key : String) : givenEntry key none = [] := rfl

theorem givenEntry_givenSection (key : String) (entries : List (Tree × Tree)) :
    givenEntry key (givenSection entries) = sectionEntry key entries := by
  unfold givenSection sectionEntry
  split <;> rfl

/-- Nothing is given for a section without entries, which is read as one with none. -/
theorem elim_givenSection {τ : Type} [Record τ] [Record.Lawful τ]
    (optional : ∀ a ∈ (Record.attributes : List (Attribute τ)), a.required = false)
    (values : List (Option Tree)) :
    (givenSection (Record.entriesWith (Record.attributes : List (Attribute τ)) values)).elim
        (.ok (Record.fresh : τ)) Record.ofTree? =
      Record.readWith Record.attributes values Record.fresh := by
  have complete : ∀ held : List (Option Tree), ∀ a ∈ (Record.attributes : List (Attribute τ)),
      a.required = true →
        a.key ∈ Record.keysWith (Record.attributes : List (Attribute τ)) held := by
    intro held a member required
    rw [optional a member] at required
    cases required
  rw [← Record.ofTree?_entriesWith (complete values)]
  unfold givenSection
  split
  · next empty =>
      have nothing := Record.ofTree?_entriesWith (complete [])
      rw [List.isEmpty_iff.1 empty]
      simpa [Record.entriesWith, Record.readWith] using nothing.symm
  · rfl

theorem readWith_section {σ τ : Type} [Record τ] [Record.Lawful τ] {key : String} {get : σ → τ}
    {set : σ → τ → σ} {as : List (Attribute σ)} {values : List (Option Tree)} {s : σ}
    (rests : set s Record.fresh = s)
    (optional : ∀ a ∈ (Record.attributes : List (Attribute τ)), a.required = false)
    (held : List (Option Tree)) :
    Record.readWith (.record key get set :: as)
        (givenSection (Record.entriesWith (Record.attributes : List (Attribute τ)) held) :: values)
        s =
      (do
        let v ← Record.readWith (Record.attributes : List (Attribute τ)) held Record.fresh
        Record.readWith as values (set s v)) := by
  rw [Record.readWith_cons (fun _ => rfl) rests, elim_givenSection optional]

/-! ## What is made of a document of version 1 -/

def carried (entries : List (Tree × Tree)) : List (Option Tree) :=
  [some (.int 2),
    keptProvider? entries,
    givenSection (Record.entriesWith (Record.attributes : List (Attribute Global))
      [sectionValue? entries "global" "clusterName",
        sectionValue? entries "global" "clusterDomain", none, none]),
    givenSection (Record.entriesWith (Record.attributes : List (Attribute Aws))
      [sectionValue? entries "aws" "region", none, none, none, none, none, none]),
    none, none, none, none, none,
    givenSection (Record.entriesWith (Record.attributes : List (Attribute Orch))
      [keptApps? entries, none])]

theorem fromVersion1_eq (entries : List (Tree × Tree)) :
    fromVersion1 entries =
      Record.entriesWith (Record.attributes : List (Attribute Config)) (carried entries) := by
  simp only [fromVersion1, ← givenEntry_givenSection, carried, Record.attributes,
    Record.entriesWith, givenEntry_none, List.append_assoc, List.append_nil]
  rfl

def heldText (value : Option Tree) : Except Mismatch String :=
  value.elim (.ok "") Attribute.scalarText

def heldTexts (value : Option Tree) : Except Mismatch (List String) :=
  value.elim (.ok []) Attribute.decodeTexts

def heldProvider (value : Option Tree) : Except Mismatch (Option Provider) :=
  value.elim (.ok none) Provider.ofTree?

theorem readWith_global (orchName parentDomain : Option Tree) :
    Record.readWith (Record.attributes : List (Attribute Global))
        [orchName, parentDomain, none, none] Record.fresh =
      (do
        let name ← heldText orchName
        let domain ← heldText parentDomain
        return { (Record.fresh : Global) with orchName := name, parentDomain := domain }) := by
  simp only [Record.attributes]
  rw [Record.readWith_cons (fun _ => rfl) rfl]
  refine congrArg (heldText orchName >>= ·) (funext fun name => ?_)
  rw [Record.readWith_cons (fun _ => rfl) rfl]
  rfl

theorem readWith_aws (region : Option Tree) :
    Record.readWith (Record.attributes : List (Attribute Aws))
        [region, none, none, none, none, none, none] Record.fresh =
      (do
        let region ← heldText region
        return { (Record.fresh : Aws) with region := region }) := by
  simp only [Record.attributes]
  rw [Record.readWith_cons (fun _ => rfl) rfl]
  rfl

theorem readWith_orch (apps : Option Tree) :
    Record.readWith (Record.attributes : List (Attribute Orch)) [apps, none] Record.fresh =
      (do
        let enabled ← heldTexts apps
        return { (Record.fresh : Orch) with enabled := enabled }) := by
  simp only [Record.attributes]
  rw [Record.readWith_cons (Attribute.texts_codes fun _ _ => rfl).read_eq rfl]
  rfl

/-- Only the version has to be there. -/
theorem key_of_required : ∀ a ∈ (Record.attributes : List (Attribute Config)),
    a.required = true → a.key = "version" := by
  decide

theorem ofTree?_fromVersion1 (entries : List (Tree × Tree)) :
    (Record.ofTree? (.mapping (fromVersion1 entries)) : Except Mismatch Config) =
      (do
        let provider ← heldProvider (keptProvider? entries)
        let name ← heldText (sectionValue? entries "global" "clusterName")
        let domain ← heldText (sectionValue? entries "global" "clusterDomain")
        let region ← heldText (sectionValue? entries "aws" "region")
        let enabled ← heldTexts (keptApps? entries)
        return { initial with
          provider := provider
          global := { initial.global with orchName := name, parentDomain := domain }
          aws := { initial.aws with region := region }
          orch := { initial.orch with enabled := enabled } }) := by
  have complete : ∀ a ∈ (Record.attributes : List (Attribute Config)), a.required = true →
      a.key ∈ Record.keysWith (Record.attributes : List (Attribute Config)) (carried entries) := by
    intro a member required
    rw [key_of_required a member required]
    exact List.mem_cons_self
  rw [fromVersion1_eq, Record.ofTree?_entriesWith complete]
  simp only [carried]
  generalize keptProvider? entries = provider
  generalize sectionValue? entries "global" "clusterName" = name
  generalize sectionValue? entries "global" "clusterDomain" = domain
  generalize sectionValue? entries "aws" "region" = region
  generalize keptApps? entries = apps
  simp only [show (Record.attributes : List (Attribute Config)) = _ :: _ from rfl]
  rw [Record.readWith_given rfl, Record.readWith_cons provider_codes.read_eq rfl]
  refine congrArg (heldProvider provider >>= ·) (funext fun provider => ?_)
  rw [readWith_section rfl (by decide), readWith_global]
  simp only [bind_assoc, pure_bind]
  refine congrArg (heldText name >>= ·) (funext fun name => ?_)
  refine congrArg (heldText domain >>= ·) (funext fun domain => ?_)
  rw [readWith_section rfl (by decide), readWith_aws]
  simp only [bind_assoc, pure_bind]
  refine congrArg (heldText region >>= ·) (funext fun region => ?_)
  simp only [Record.readWith]
  rw [readWith_section rfl (by decide), readWith_orch]
  simp only [bind_assoc, pure_bind]
  rfl

/-! ## Which documents can be loaded, and as what -/

def isScalar : Tree → Bool
  | .null | .bool _ | .int _ | .float _ | .string _ => true
  | .sequence _ | .mapping _ | .tagged .. => false

/-- The text of a scalar; null has none. -/
def scalarForm : Tree → String
  | .string text => text
  | .int value => Tree.intText value
  | .float value => Tree.floatText value
  | .bool value => Tree.boolText value
  | _ => ""

/-- The paths of the texts that are carried over. -/
def carriedTexts : List (List String) :=
  [["global", "clusterName"], ["global", "clusterDomain"], ["aws", "region"]]

def carriedPaths : List (List String) :=
  carriedTexts ++ [["provider"], ["enabled"]]

/-- What is carried over of a document has shapes that are still known. -/
structure IsUpgradable (tree : Tree) : Prop where
  scalars : ∀ path ∈ carriedTexts, ∀ value, tree.at? path = some value → isScalar value = true
  apps : ∀ items, tree.at? ["enabled"] = some (.sequence items) →
    ∀ item ∈ items, ∃ text, item = .string text

/-- The text at a path, which is empty if there is none. -/
def formAt (tree : Tree) (path : List String) : String :=
  ((tree.at? path).map scalarForm).getD ""

def providerOf (tree : Tree) : Option Provider :=
  match tree.at? ["provider"] with
  | some (.string "aws") => some .aws
  | some (.string "onprem") => some .onprem
  | _ => none

def appsOf (tree : Tree) : List String :=
  match tree.at? ["enabled"] with
  | some (.sequence items) => items.map scalarForm
  | _ => []

/-- The configuration of a document of version 1. -/
def upgraded (tree : Tree) : Config :=
  { initial with
    provider := providerOf tree
    global := { initial.global with
      orchName := formAt tree ["global", "clusterName"]
      parentDomain := formAt tree ["global", "clusterDomain"] }
    aws := { initial.aws with region := formAt tree ["aws", "region"] }
    orch := { initial.orch with enabled := appsOf tree } }

theorem scalarText_eq_ok_iff {tree : Tree} {text : String} :
    Attribute.scalarText tree = .ok text ↔ isScalar tree = true ∧ text = scalarForm tree := by
  cases tree <;> simp [Attribute.scalarText, isScalar, scalarForm, eq_comm]

theorem textOnly_eq_ok_iff {item : Tree} (tagless : item.hasTag = false) {text : String} :
    Attribute.textOnly item = .ok text ↔ item = .string text := by
  unfold Attribute.textOnly
  rw [untagged_of_hasTag tagless]
  cases item <;> simp

theorem mapM_textOnly_eq_ok_iff {items : List Tree} (tagless : ∀ item ∈ items, item.hasTag = false)
    {texts : List String} :
    items.mapM Attribute.textOnly = .ok texts ↔
      (∀ item ∈ items, ∃ text, item = .string text) ∧ items.map scalarForm = texts := by
  induction items generalizing texts with
  | nil => simp [pure, Except.pure]
  | cons item rest ih =>
      obtain ⟨first, others⟩ := List.forall_mem_cons.1 tagless
      simp only [List.mapM_cons, Except.bind_eq_ok_iff, textOnly_eq_ok_iff first, ih others,
        List.forall_mem_cons, List.map_cons, pure, Except.pure, Except.ok.injEq]
      constructor
      · rintro ⟨text, rfl, later, ⟨plain, rfl⟩, rfl⟩
        exact ⟨⟨⟨text, rfl⟩, plain⟩, rfl⟩
      · rintro ⟨⟨⟨text, rfl⟩, plain⟩, rfl⟩
        exact ⟨text, rfl, _, ⟨plain, rfl⟩, rfl⟩

/-! ### What is carried over -/

theorem at?_cons (entries : List (Tree × Tree)) (key : String) (path : List String) :
    (Tree.mapping entries).at? (key :: path) =
      (Tree.lookup? entries key).bind fun value => value.at? path := rfl

theorem at?_singleton (tree : Tree) (key : String) : tree.at? [key] = tree.get? key := by
  unfold Tree.at?
  cases tree.get? key <;> rfl

theorem at?_key (entries : List (Tree × Tree)) (key : String) :
    (Tree.mapping entries).at? [key] = Tree.lookup? entries key :=
  at?_singleton _ _

theorem sectionValue?_eq (entries : List (Tree × Tree)) (name key : String) :
    sectionValue? entries name key =
      ((Tree.mapping entries).at? [name, key]).bind fun value =>
        match value.untagged with
        | .null => none
        | _ => some value := by
  rw [at?_cons]
  unfold sectionValue?
  cases Tree.lookup? entries name with
  | none => rfl
  | some group =>
      rw [Option.bind_some, at?_singleton]
      cases found : group.get? key <;> simp only [found] <;> rfl

theorem hasTag_of_at? {tree : Tree} (tagless : tree.hasTag = false) {path : List String}
    {value : Tree} (found : tree.at? path = some value) : value.hasTag = false := by
  induction path generalizing tree with
  | nil =>
      cases found
      exact tagless
  | cons key path ih =>
      obtain ⟨inner, first, later⟩ := Option.bind_eq_some_iff.1 found
      unfold Tree.get? at first
      rw [untagged_of_hasTag tagless] at first
      split at first
      · exact ih (hasTag_of_lookup? tagless first) later
      · cases first

section

variable {entries : List (Tree × Tree)} (tagless : (Tree.mapping entries).hasTag = false)

include tagless

theorem heldProvider_keptProvider? :
    heldProvider (keptProvider? entries) = .ok (providerOf (.mapping entries)) := by
  unfold keptProvider? providerOf
  rw [at?_key]
  cases found : Tree.lookup? entries "provider" with
  | none => rfl
  | some value =>
      rw [Option.map_some, untagged_of_hasTag (hasTag_of_lookup? tagless found)]
      cases value with
      | string name =>
          by_cases aws : name = "aws"
          · subst aws
            rfl
          · by_cases onprem : name = "onprem"
            · subst onprem
              rfl
            · have unknown : Provider.ofName? name = none := by
                simp [Provider.ofName?, Provider.all, Provider.name, Ne.symm aws, Ne.symm onprem]
              simp [unknown, heldProvider, aws, onprem]
      | _ => rfl

theorem heldText_sectionValue? (name key : String) {text : String} :
    heldText (sectionValue? entries name key) = .ok text ↔
      (∀ value, (Tree.mapping entries).at? [name, key] = some value → isScalar value = true) ∧
        text = formAt (.mapping entries) [name, key] := by
  rw [sectionValue?_eq, formAt, @eq_comm _ text]
  cases found : (Tree.mapping entries).at? [name, key] with
  | none => simp [heldText]
  | some value =>
      cases value with
      | null => simp [heldText, isScalar, scalarForm, Tree.untagged]
      | tagged tag inner => cases hasTag_of_at? tagless found
      | _ => simp [heldText, scalarText_eq_ok_iff, Tree.untagged, @eq_comm _ text]

theorem heldTexts_keptApps? {texts : List String} :
    heldTexts (keptApps? entries) = .ok texts ↔
      (∀ items, (Tree.mapping entries).at? ["enabled"] = some (.sequence items) →
        ∀ item ∈ items, ∃ text, item = .string text) ∧
        texts = appsOf (.mapping entries) := by
  unfold keptApps? appsOf
  rw [at?_key, @eq_comm _ texts]
  cases found : Tree.lookup? entries "enabled" with
  | none => simp [heldTexts]
  | some value =>
      have plain := hasTag_of_lookup? tagless found
      cases value with
      | sequence items =>
          simpa [heldTexts, Attribute.decodeTexts, Tree.untagged] using
            mapM_textOnly_eq_ok_iff (Tree.itemsHaveTag_eq_false.1 plain)
      | tagged tag inner => cases plain
      | _ => simp [heldTexts, Tree.untagged]

theorem ofTree?_fromVersion1_eq_ok_iff {c : Config} :
    Record.ofTree? (.mapping (fromVersion1 entries)) = .ok c ↔
      IsUpgradable (.mapping entries) ∧ c = upgraded (.mapping entries) := by
  rw [ofTree?_fromVersion1]
  simp only [heldProvider_keptProvider? tagless, Except.bind_eq_ok_iff,
    heldText_sectionValue? tagless, heldTexts_keptApps? tagless, Except.ok.injEq, pure,
    Except.pure, exists_eq_left']
  constructor
  · rintro ⟨_, ⟨name, rfl⟩, _, ⟨domain, rfl⟩, _, ⟨region, rfl⟩, _, ⟨apps, rfl⟩, rfl⟩
    refine ⟨⟨?_, apps⟩, rfl⟩
    simp only [carriedTexts, List.forall_mem_cons]
    exact ⟨name, domain, region, List.forall_mem_nil _⟩
  · rintro ⟨shapes, rfl⟩
    have scalars := shapes.scalars
    simp only [carriedTexts, List.forall_mem_cons] at scalars
    obtain ⟨name, domain, region, _⟩ := scalars
    exact ⟨_, ⟨name, rfl⟩, _, ⟨domain, rfl⟩, _, ⟨region, rfl⟩, _, ⟨shapes.apps, rfl⟩, rfl⟩

end

/-! ### Loading -/

theorem fromVersion1_congr {entries others : List (Tree × Tree)}
    (same : ∀ path ∈ carriedPaths,
      (Tree.mapping others).at? path = (Tree.mapping entries).at? path) :
    fromVersion1 others = fromVersion1 entries := by
  simp only [carriedPaths, carriedTexts, List.cons_append, List.nil_append, List.forall_mem_cons,
    at?_key] at same
  obtain ⟨name, domain, region, provider, apps, _⟩ := same
  simp only [fromVersion1, sectionValue?_eq, keptProvider?, keptApps?, name, domain, region,
    provider, apps]

theorem mapping_of_at? {tree value : Tree} (tagless : tree.hasTag = false) {key : String}
    (found : tree.at? [key] = some value) :
    ∃ entries, tree = .mapping entries ∧ Tree.lookup? entries key = some value := by
  rw [at?_singleton, Tree.get?, untagged_of_hasTag tagless] at found
  split at found
  · exact ⟨_, rfl, found⟩
  · cases found

/-- Nothing is kept under unknown keys of what is made of a document of version 1. -/
theorem extra_upgraded (tree : Tree) :
    (upgraded tree).extra = .empty ∧
      ∀ s ∈ sections, Record.extra (s.get (upgraded tree)) = .empty := by
  simp only [sections, List.forall_mem_cons]
  exact ⟨rfl, rfl, rfl, rfl, rfl, rfl, rfl, rfl, rfl, List.forall_mem_nil _⟩

/--
A document of version 1 is loaded if and only if what is carried over has known shapes. It is loaded
as the configuration that these values make up, without any unknown keys, and so is any document
with the same values at the paths that are carried over.
-/
theorem load_version1 {tree : Tree} (tagless : tree.hasTag = false)
    (version : tree.at? ["version"] = some (.int 1)) :
    ∃ log migrated, migrate tree = .ok (log, migrated) ∧
      ((∃ c, ofTree migrated = .ok c) ↔ IsUpgradable tree) ∧
      (∀ c, ofTree migrated = .ok c →
        c = upgraded tree ∧ c.extra = .empty ∧ ∀ s ∈ sections, Record.extra (s.get c) = .empty) ∧
      ∀ other : Tree, other.hasTag = false →
        (∀ path ∈ ["version"] :: carriedPaths, other.at? path = tree.at? path) →
          migrate other = .ok (log, migrated) ∧
            ∀ text, Tree.ofText? text = .ok other → ofText text = ofTree migrated := by
  obtain ⟨entries, rfl, found⟩ := mapping_of_at? tagless version
  have loads (c : Config) : ofTree (.mapping (fromVersion1 entries)) = .ok c ↔
      IsUpgradable (.mapping entries) ∧ c = upgraded (.mapping entries) :=
    ofTree_eq_ok_iff.trans (ofTree?_fromVersion1_eq_ok_iff tagless)
  refine ⟨_, _, migrate_of_first found, ?_, ?_, ?_⟩
  · simp only [loads, exists_and_left, exists_eq, and_true]
  · intro c loaded
    obtain ⟨_, rfl⟩ := (loads c).1 loaded
    exact ⟨rfl, extra_upgraded _⟩
  · intro other tagless' same
    obtain ⟨sameVersion, sameValues⟩ := List.forall_mem_cons.1 same
    obtain ⟨others, rfl, found'⟩ := mapping_of_at? tagless' (sameVersion.trans version)
    have migrated := migrate_of_first found'
    rw [fromVersion1_congr sameValues] at migrated
    exact ⟨migrated, fun text shape => ofText_of_migrate shape migrated⟩

/-- A document of version 1, with a number for a name and a provider that is no longer known. -/
def firstText : String :=
  "version: 1\nprovider: azure\nglobal:\n  clusterName: 123\n  clusterDomain: null\n" ++
    "aws:\n  account: '123456789012'\n  region: us-west-2\nenabled:\n- fps\n- ui\n"

def firstTree : Tree :=
  .mapping [(.string "version", .int 1), (.string "provider", .string "azure"),
    (.string "global",
      .mapping [(.string "clusterName", .int 123), (.string "clusterDomain", .null)]),
    (.string "aws",
      .mapping [(.string "account", .string "123456789012"),
        (.string "region", .string "us-west-2")]),
    (.string "enabled", .sequence [.string "fps", .string "ui"])]

theorem load_version1_azure :
    Tree.ofText? firstText = .ok firstTree ∧ firstTree.hasTag = false ∧
      firstTree.at? ["version"] = some (.int 1) ∧ IsUpgradable firstTree ∧
      ofText firstText = .ok { initial with
        global := { initial.global with orchName := "123" }
        aws := { initial.aws with region := "us-west-2" }
        orch := { initial.orch with enabled := ["fps", "ui"] } } := by
  have shape : Tree.ofText? firstText = .ok firstTree :=
    Except.eq_ok_of_toOption (by decide +kernel)
  have upgradable : IsUpgradable firstTree := by
    constructor
    case scalars =>
      simp only [carriedTexts, List.forall_mem_cons]
      refine ⟨?_, ?_, ?_, List.forall_mem_nil _⟩
      all_goals
        intro value found
        cases found
        rfl
    case apps =>
      intro items found
      cases found
      simp
  obtain ⟨_, migrated, _, loads, upgrades, same⟩ :=
    load_version1 (show firstTree.hasTag = false from rfl) rfl
  obtain ⟨c, loaded⟩ := loads.2 upgradable
  refine ⟨shape, rfl, rfl, upgradable, ?_⟩
  rw [(same firstTree rfl fun _ _ => rfl).2 firstText shape, loaded, (upgrades c loaded).1]
  rfl

end InstallerSetup.Config
