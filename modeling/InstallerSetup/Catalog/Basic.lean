import InstallerSetup.KeyMap
import InstallerSetup.Yaml.Tree

/-!
# The package catalog

The packages that can be enabled and the applications in each of them, all under identifiers. An
application may belong to several packages. Lists for display are ordered by name, and by identifier
among equal names.
-/

namespace InstallerSetup

open Yaml (Tree)

structure Catalog.App where
  name : String
  description : String
  deriving DecidableEq, Repr, Inhabited

structure Catalog.Package where
  name : String
  description : String
  apps : KeyMap Catalog.App
  deriving DecidableEq, Repr, Inhabited

/-- The packages by their identifiers. -/
structure Catalog where
  packages : KeyMap Catalog.Package
  deriving DecidableEq, Repr, Inhabited

namespace Catalog

def empty : Catalog := ⟨.empty⟩

def isEmpty (c : Catalog) : Bool := c.packages.isEmpty

def package? (c : Catalog) (id : String) : Option Package := c.packages.get? id

/-- The order of display: by name, then by identifier. -/
def precedes {α : Type} (name : α → String) (a b : String × α) : Bool :=
  name a.2 < name b.2 || (name a.2 == name b.2 && a.1 ≤ b.1)

def byName {α : Type} (name : α → String) (entries : List (String × α)) : List (String × α) :=
  entries.mergeSort (precedes name)

def packagesByName (c : Catalog) : List (String × Package) :=
  byName Package.name c.packages.entries

def listings (c : Catalog) : List (String × App) :=
  c.packages.entries.flatMap fun (_, package) => package.apps.entries

/-- All applications; the first package that lists one describes it. -/
def apps (c : Catalog) : KeyMap App := KeyMap.ofList c.listings.reverse

def appsByName (c : Catalog) : List (String × App) := byName App.name c.apps.entries

def distinct (ids : List String) : List String :=
  (KeyMap.ofList (ids.map fun id => (id, ()))).keys

def appIds (c : Catalog) : List String :=
  distinct (c.packages.entries.flatMap fun (_, package) => package.apps.keys)

def containsApp (c : Catalog) (id : String) : Bool :=
  c.packages.entries.any fun (_, package) => package.apps.contains id

/-- The applications of the given packages; unknown packages have none. -/
def expand (c : Catalog) (packageIds : List String) : List String :=
  distinct ((packageIds.filterMap c.package?).flatMap fun package => package.apps.keys)

def appTree (app : App) : Tree :=
  .mapping
    [(.string "name", .string app.name), (.string "description", .string app.description)]

def packageTree (package : Package) : Tree :=
  .mapping
    [(.string "name", .string package.name),
      (.string "description", .string package.description),
      (.string "apps",
        .mapping (package.apps.entries.map fun (id, app) => (.string id, appTree app)))]

def toTree (c : Catalog) : Tree :=
  .mapping (c.packages.entries.map fun (id, package) => (.string id, packageTree package))

end Catalog

end InstallerSetup
