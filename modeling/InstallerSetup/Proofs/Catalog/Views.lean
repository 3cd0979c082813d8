import InstallerSetup.Proofs.Catalog
import Mathlib.Data.List.Sort

/-!
# The views of a catalog

The identifiers of all applications, the applications in the order of display, the test for one
application and the expansion of packages walk through a catalog each in its own way. They agree on
which applications there are (`mem_appIds_iff`, `mem_keys_appsByName_iff`, `containsApp_iff`,
`mem_expand_iff`). Where packages describe one application differently, the package with the least
identifier counts (`Describes`).
-/

namespace InstallerSetup.Catalog

/-! ## The order of display -/

section Display

variable {α : Type} {name : α → String} {entries : List (String × α)}

/-- The strict order of display: by name, then by identifier. -/
def ShownBefore (name : α → String) (a b : String × α) : Prop :=
  name a.2 < name b.2 ∨ name a.2 = name b.2 ∧ a.1 < b.1

theorem precedes_iff {a b : String × α} :
    precedes name a b = true ↔ name a.2 < name b.2 ∨ name a.2 = name b.2 ∧ a.1 ≤ b.1 := by
  simp [precedes]

theorem precedes_trans {a b d : String × α} (first : precedes name a b = true)
    (second : precedes name b d = true) : precedes name a d = true := by
  rw [precedes_iff] at first second ⊢
  rcases first with less | ⟨same, before⟩ <;> rcases second with less' | ⟨same', before'⟩
  · exact .inl (String.lt_trans less less')
  · exact .inl (same' ▸ less)
  · exact .inl (same ▸ less')
  · exact .inr ⟨same.trans same', String.le_trans before before'⟩

theorem precedes_total (a b : String × α) : (precedes name a b || precedes name b a) = true := by
  rw [Bool.or_eq_true, precedes_iff, precedes_iff]
  by_cases same : name a.2 = name b.2
  · exact (String.le_total a.1 b.1).imp (fun before => .inr ⟨same, before⟩)
      fun before => .inr ⟨same.symm, before⟩
  · exact (String.le_total (name a.2) (name b.2)).imp
      (fun le => .inl (Std.lt_of_le_of_ne le same))
      fun le => .inl (Std.lt_of_le_of_ne le (Ne.symm same))

theorem perm_byName : (byName name entries).Perm entries := List.mergeSort_perm entries _

theorem nodup_keys_byName (increasing : Increasing entries) :
    ((byName name entries).map Prod.fst).Nodup := by
  have distinct : (entries.map Prod.fst).Nodup :=
    List.pairwise_map.2 (increasing.imp Std.ne_of_lt)
  exact (perm_byName.map Prod.fst).nodup_iff.2 distinct

/-- Entries with different identifiers are strictly ordered, also where names are equal. -/
theorem pairwise_byName (increasing : Increasing entries) :
    (byName name entries).Pairwise (ShownBefore name) := by
  have sorted : (byName name entries).Pairwise fun a b => precedes name a b = true :=
    List.pairwise_mergeSort (fun _ _ _ => precedes_trans) precedes_total entries
  have distinct : (byName name entries).Pairwise fun a b => a.1 ≠ b.1 :=
    List.pairwise_map.1 (nodup_keys_byName increasing)
  refine (sorted.and distinct).imp fun ⟨before, different⟩ => ?_
  rcases precedes_iff.1 before with less | ⟨same, before⟩
  · exact .inl less
  · exact .inr ⟨same, Std.lt_of_le_of_ne before different⟩

end Display

/-! ## Packages -/

variable {c : Catalog} {id : String}

theorem mem_packagesByName_iff {package : Package} :
    (id, package) ∈ c.packagesByName ↔ c.package? id = some package :=
  List.mem_mergeSort.trans KeyMap.mem_entries_iff

/-! ## Which applications there are -/

theorem lists_iff :
    c.Lists id ↔
      ∃ packageId package, c.package? packageId = some package ∧ id ∈ package.apps.keys := by
  constructor
  · rintro ⟨⟨packageId, package⟩, known, listed⟩
    exact ⟨packageId, package, KeyMap.mem_entries_iff.1 known, listed⟩
  · rintro ⟨packageId, package, known, listed⟩
    exact ⟨(packageId, package), KeyMap.mem_entries_iff.2 known, listed⟩

theorem mem_appIds_iff : id ∈ c.appIds ↔ c.Lists id := by
  unfold appIds Lists
  rw [mem_distinct, List.mem_flatMap]

theorem pairwise_appIds (c : Catalog) : c.appIds.Pairwise (· < ·) := KeyMap.pairwise_keys _

/-! ## How an application is described -/

/-- The package with the least identifier among those that list an application describes it. -/
def Describes (c : Catalog) (id : String) (app : App) : Prop :=
  ∃ packageId package, c.package? packageId = some package ∧ package.apps.get? id = some app ∧
    ∀ otherId other, c.package? otherId = some other → id ∈ other.apps.keys → packageId ≤ otherId

theorem Describes.lists {app : App} (described : c.Describes id app) : c.Lists id := by
  obtain ⟨packageId, package, known, found, _⟩ := described
  exact lists_iff.2 ⟨packageId, package, known, KeyMap.mem_keys_iff.2 ⟨app, found⟩⟩

theorem Describes.unique {app app' : App} (first : c.Describes id app)
    (second : c.Describes id app') : app = app' := by
  obtain ⟨packageId, package, known, found, least⟩ := first
  obtain ⟨packageId', package', known', found', least'⟩ := second
  obtain rfl : packageId = packageId' := Std.le_antisymm
    (least packageId' package' known' (KeyMap.mem_keys_iff.2 ⟨app', found'⟩))
    (least' packageId package known (KeyMap.mem_keys_iff.2 ⟨app, found⟩))
  obtain rfl : package = package' := Option.some.inj (known.symm.trans known')
  exact Option.some.inj (found.symm.trans found')

/-- An application is looked up in one package after the other. -/
theorem get?_apps :
    c.apps.get? id = c.packages.entries.findSome? fun entry => entry.2.apps.get? id := by
  unfold apps listings
  rw [KeyMap.get?_ofList_reverse, List.find?_flatMap, List.map_findSome?]
  rfl

theorem describes_of_get?_apps {app : App} (found : c.apps.get? id = some app) :
    c.Describes id app := by
  rw [get?_apps] at found
  obtain ⟨before, ⟨packageId, package⟩, behind, split, listed, unlisted⟩ :=
    List.findSome?_eq_some_iff.1 found
  have known : (packageId, package) ∈ c.packages.entries := by
    rw [split]
    exact List.mem_append_right _ List.mem_cons_self
  have increasing : Increasing (before ++ (packageId, package) :: behind) :=
    split ▸ c.packages.increasing
  have above : ∀ entry ∈ behind, packageId < entry.1 :=
    (List.pairwise_cons.1 (List.pairwise_append.1 increasing).2.1).1
  refine ⟨packageId, package, KeyMap.mem_entries_iff.1 known, listed, ?_⟩
  intro otherId other lookup listing
  have member : (otherId, other) ∈ before ++ (packageId, package) :: behind :=
    split ▸ KeyMap.mem_entries_iff.2 lookup
  -- the packages in front of it do not list the application, those behind it have greater keys
  rcases List.mem_append.1 member with member | member
  · obtain ⟨value, found⟩ := KeyMap.mem_keys_iff.1 listing
    rw [unlisted _ member] at found
    cases found
  · rcases List.mem_cons.1 member with same | member
    · cases same
      exact Std.le_refl _
    · exact Std.le_of_lt (above _ member)

theorem get?_apps_eq_some_iff {app : App} : c.apps.get? id = some app ↔ c.Describes id app := by
  refine ⟨describes_of_get?_apps, fun described => ?_⟩
  obtain ⟨app', found⟩ := KeyMap.mem_keys_iff.1 (mem_keys_apps_iff.2 described.lists)
  rw [found, described.unique (describes_of_get?_apps found)]

theorem mem_appsByName_iff {app : App} : (id, app) ∈ c.appsByName ↔ c.Describes id app :=
  List.mem_mergeSort.trans (KeyMap.mem_entries_iff.trans get?_apps_eq_some_iff)

theorem mem_keys_appsByName_iff : id ∈ c.appsByName.map Prod.fst ↔ c.Lists id :=
  (perm_byName.map Prod.fst).mem_iff.trans mem_keys_apps_iff

/-! ## The applications of a list -/

def sortedByName (c : Catalog) (ids : List String) : List String :=
  (c.appsByName.filter fun entry => ids.contains entry.1).map Prod.fst

def NamedBefore (c : Catalog) (id id' : String) : Prop :=
  ∃ app app', c.Describes id app ∧ c.Describes id' app' ∧ ShownBefore App.name (id, app) (id', app')

theorem mem_sortedByName_iff {ids : List String} :
    id ∈ c.sortedByName ids ↔ id ∈ ids ∧ c.Lists id := by
  rw [sortedByName, ← mem_keys_appsByName_iff, List.mem_map, List.mem_map]
  constructor
  · rintro ⟨entry, member, rfl⟩
    obtain ⟨offered, among⟩ := List.mem_filter.1 member
    exact ⟨List.contains_iff_mem.1 among, entry, offered, rfl⟩
  · rintro ⟨among, entry, offered, rfl⟩
    exact ⟨entry, List.mem_filter.2 ⟨offered, List.contains_iff_mem.2 among⟩, rfl⟩

theorem nodup_sortedByName (c : Catalog) (ids : List String) : (c.sortedByName ids).Nodup :=
  (List.filter_sublist.map Prod.fst).nodup (nodup_keys_byName c.apps.increasing)

theorem pairwise_sortedByName (c : Catalog) (ids : List String) :
    (c.sortedByName ids).Pairwise c.NamedBefore := by
  have ordered : c.appsByName.Pairwise (ShownBefore App.name) :=
    pairwise_byName c.apps.increasing
  refine List.pairwise_map.2 ((ordered.filter _).imp_of_mem fun first second before => ?_)
  exact ⟨_, _, mem_appsByName_iff.1 (List.mem_filter.1 first).1,
    mem_appsByName_iff.1 (List.mem_filter.1 second).1, before⟩

/-! ## Expansion -/

theorem expand_keys (c : Catalog) : c.expand c.packages.keys = c.appIds := by
  refine List.Pairwise.eq_of_mem_iff (pairwise_expand c _) (pairwise_appIds c) fun id => ?_
  rw [mem_expand_iff, mem_appIds_iff, lists_iff]
  constructor
  · rintro ⟨packageId, _, package, known, listed⟩
    exact ⟨packageId, package, known, listed⟩
  · rintro ⟨packageId, package, known, listed⟩
    exact ⟨packageId, KeyMap.mem_keys_iff.2 ⟨package, known⟩, package, known, listed⟩

/-- Expansion depends on which packages of the catalog are given. -/
theorem expand_congr {packageIds packageIds' : List String}
    (same : ∀ packageId ∈ c.packages.keys, packageId ∈ packageIds ↔ packageId ∈ packageIds') :
    c.expand packageIds = c.expand packageIds' := by
  refine List.Pairwise.eq_of_mem_iff (pairwise_expand c _) (pairwise_expand c _) fun id => ?_
  rw [mem_expand_iff, mem_expand_iff]
  refine exists_congr fun packageId => and_congr_left ?_
  rintro ⟨package, known, _⟩
  exact same packageId (KeyMap.mem_keys_iff.2 ⟨package, known⟩)

theorem mem_expand_append_iff {packageIds packageIds' : List String} :
    id ∈ c.expand (packageIds ++ packageIds') ↔
      id ∈ c.expand packageIds ∨ id ∈ c.expand packageIds' := by
  simp only [mem_expand_iff, List.mem_append, or_and_right, exists_or]

/-! ## Agreement -/

/--
All views have the same applications. Applications and packages are displayed once each in the
strict order of display, an application as the least package that lists it describes it. What
packages are expanded to increases and depends on nothing but which of them the catalog has.
-/
theorem views_agree (c : Catalog) :
    (∀ id, id ∈ c.appIds ↔ c.Lists id) ∧
      (∀ id, id ∈ c.appsByName.map Prod.fst ↔ id ∈ c.appIds) ∧
      (∀ id, c.containsApp id = true ↔ id ∈ c.appIds) ∧
      c.expand c.packages.keys = c.appIds ∧
      (c.appsByName.map Prod.fst).Nodup ∧
      c.appsByName.Pairwise (ShownBefore App.name) ∧
      (∀ id app, (id, app) ∈ c.appsByName ↔ c.Describes id app) ∧
      (c.packagesByName.map Prod.fst).Nodup ∧
      c.packagesByName.Pairwise (ShownBefore Package.name) ∧
      (∀ id package, (id, package) ∈ c.packagesByName ↔ c.package? id = some package) ∧
      ∀ xs ys : List String,
        (c.expand xs).Pairwise (· < ·) ∧
        (∀ id, id ∈ c.expand xs ↔
          ∃ packageId ∈ xs, ∃ package,
            c.package? packageId = some package ∧ id ∈ package.apps.keys) ∧
        ((∀ packageId ∈ c.packages.keys, packageId ∈ xs ↔ packageId ∈ ys) →
          c.expand xs = c.expand ys) ∧
        (c.expand (xs ++ ys)).Pairwise (· < ·) ∧
        ∀ id, id ∈ c.expand (xs ++ ys) ↔ id ∈ c.expand xs ∨ id ∈ c.expand ys :=
  ⟨fun _ => mem_appIds_iff,
    fun _ => mem_keys_appsByName_iff.trans mem_appIds_iff.symm,
    fun _ => containsApp_iff.trans mem_appIds_iff.symm,
    expand_keys c,
    nodup_keys_byName c.apps.increasing,
    pairwise_byName c.apps.increasing,
    fun _ _ => mem_appsByName_iff,
    nodup_keys_byName c.packages.increasing,
    pairwise_byName c.packages.increasing,
    fun _ _ => mem_packagesByName_iff,
    fun xs ys =>
      ⟨pairwise_expand c xs, fun _ => mem_expand_iff, expand_congr, pairwise_expand c (xs ++ ys),
        fun _ => mem_expand_append_iff⟩⟩

/-- Two packages with one name, which describe an application differently. -/
def sharedCatalog : Catalog :=
  ⟨KeyMap.ofList
    [("p", ⟨"Same", "", KeyMap.ofList [("x", ⟨"B", ""⟩)]⟩),
      ("q", ⟨"Same", "", KeyMap.ofList [("x", ⟨"A", ""⟩), ("y", ⟨"A", ""⟩)]⟩)]⟩

theorem views_agree_of_shared :
    sharedCatalog.expand ["q", "unknown", "p", "q"] = sharedCatalog.expand ["p", "q"] ∧
      ("x", ⟨"B", ""⟩) ∈ sharedCatalog.appsByName := by
  obtain ⟨_, _, _, _, _, _, shown, _, _, _, expanded⟩ := views_agree sharedCatalog
  obtain ⟨_, _, same, _, _⟩ := expanded ["q", "unknown", "p", "q"] ["p", "q"]
  have described : sharedCatalog.Describes "x" ⟨"B", ""⟩ :=
    describes_of_get?_apps (by decide +kernel)
  exact ⟨same (by decide +kernel), (shown "x" ⟨"B", ""⟩).2 described⟩

end InstallerSetup.Catalog
