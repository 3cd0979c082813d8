import InstallerSetup.Form.Installer
import InstallerSetup.Proofs.KeyMap

/-!
# The applications of a catalog

The lists of applications that are offered, expanded from packages or kept hold nothing but
applications of packages of the catalog.
-/

namespace InstallerSetup.Catalog

def Lists (c : Catalog) (id : String) : Prop :=
  ∃ entry ∈ c.packages.entries, id ∈ entry.2.apps.keys

theorem containsApp_iff {c : Catalog} {id : String} : c.containsApp id = true ↔ c.Lists id := by
  simp [containsApp, Lists, KeyMap.contains, KeyMap.keys, List.any_eq_true]

theorem mem_distinct {id : String} {ids : List String} : id ∈ distinct ids ↔ id ∈ ids := by
  unfold distinct
  rw [KeyMap.mem_keys_ofList, List.map_map]
  simp

/-- Packages are expanded to the applications that one of them lists. -/
theorem mem_expand_iff {c : Catalog} {packageIds : List String} {id : String} :
    id ∈ c.expand packageIds ↔
      ∃ packageId ∈ packageIds, ∃ package,
        c.package? packageId = some package ∧ id ∈ package.apps.keys := by
  unfold expand
  rw [mem_distinct, List.mem_flatMap]
  constructor
  · rintro ⟨package, listed, found⟩
    obtain ⟨packageId, picked, lookup⟩ := List.mem_filterMap.1 listed
    exact ⟨packageId, picked, package, lookup, found⟩
  · rintro ⟨packageId, picked, package, lookup, found⟩
    exact ⟨package, List.mem_filterMap.2 ⟨packageId, picked, lookup⟩, found⟩

theorem pairwise_expand (c : Catalog) (packageIds : List String) :
    (c.expand packageIds).Pairwise (· < ·) :=
  KeyMap.pairwise_keys _

theorem lists_of_mem_expand {c : Catalog} {packageIds : List String} {id : String}
    (member : id ∈ c.expand packageIds) : c.Lists id := by
  obtain ⟨packageId, _, package, lookup, found⟩ := mem_expand_iff.1 member
  exact ⟨(packageId, package), KeyMap.mem_entries_iff.2 lookup, found⟩

/-- The packages that are offered are those of the catalog. -/
theorem isSome_package?_of_mem_packagesByName {c : Catalog} {entry : String × Package}
    (offered : entry ∈ c.packagesByName) : (c.package? entry.1).isSome = true := by
  have known : (entry.1, entry.2) ∈ c.packages.entries := List.mem_mergeSort.1 offered
  exact Option.isSome_iff_exists.2 ⟨entry.2, KeyMap.mem_entries_iff.1 known⟩

theorem mem_keys_apps_iff {c : Catalog} {id : String} : id ∈ c.apps.keys ↔ c.Lists id := by
  unfold apps listings Lists
  rw [KeyMap.mem_keys_ofList, List.map_reverse, List.mem_reverse, List.map_flatMap,
    List.mem_flatMap]
  rfl

theorem lists_of_mem_apps {c : Catalog} {entry : String × App} (member : entry ∈ c.apps.entries) :
    c.Lists entry.1 :=
  mem_keys_apps_iff.1 (List.mem_map.2 ⟨entry, member, rfl⟩)

theorem lists_of_mem_appItems {s : Form.State} {c : Catalog} {item : Form.Item}
    (member : item ∈ Form.Installer.appItems s c) : c.Lists item.id := by
  obtain ⟨entry, listed, rfl⟩ := List.mem_map.1 member
  exact lists_of_mem_apps (List.mem_mergeSort.1 listed)

end InstallerSetup.Catalog
