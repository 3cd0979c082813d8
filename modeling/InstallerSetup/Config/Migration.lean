import InstallerSetup.Config.Basic
import InstallerSetup.Failure
import InstallerSetup.Log

/-!
# Migration

Documents of older versions are brought up to the current one before they are read as records.
Version 1 named a deployment by its cluster, knew another provider and kept the list of applications
at the top level; whatever else it held is dropped.
-/

namespace InstallerSetup.Config

open Yaml (Tree)

/-- The least number that is too large for a version, `2 ^ 63`. -/
def versionLimit : Int := 9223372036854775808

/-- The version that a document claims, which has to be an integer of 64 bits with a sign. -/
def version? : Tree → Except Failure Int
  | .mapping entries =>
      match Tree.lookup? entries "version" with
      | none => .error .missingVersion
      | some tree =>
          match tree.untagged with
          | .int value =>
              if value < versionLimit then .ok value else .error (.documentMalformed .version)
          | _ => .error (.documentMalformed .version)
  | .null => .error .missingVersion
  | _ => .error (.documentMalformed .topLevel)

def sectionValue? (entries : List (Tree × Tree)) (name key : String) : Option Tree :=
  match Tree.lookup? entries name with
  | none => none
  | some group =>
      match group.get? key with
      | none => none
      | some value =>
          match value.untagged with
          | .null => none
          | _ => some value

def givenEntry (key : String) (value : Option Tree) : List (Tree × Tree) :=
  (value.map fun tree => (Tree.string key, tree)).toList

def sectionEntry (key : String) (entries : List (Tree × Tree)) : List (Tree × Tree) :=
  if entries.isEmpty then [] else [(.string key, .mapping entries)]

/-- The provider of a document of version 1, if it is still known. -/
def keptProvider? (entries : List (Tree × Tree)) : Option Tree :=
  match (Tree.lookup? entries "provider").map Tree.untagged with
  | some (.string name) => (Provider.ofName? name).map fun p => .string p.name
  | _ => none

def keptApps? (entries : List (Tree × Tree)) : Option Tree :=
  match Tree.lookup? entries "enabled" with
  | none => none
  | some tree =>
      match tree.untagged with
      | .sequence _ => some tree
      | _ => none

def fromVersion1 (entries : List (Tree × Tree)) : List (Tree × Tree) :=
  [(.string "version", .int 2)] ++
    givenEntry "provider" (keptProvider? entries) ++
    sectionEntry "global"
      (givenEntry "orchName" (sectionValue? entries "global" "clusterName") ++
        givenEntry "parentDomain" (sectionValue? entries "global" "clusterDomain")) ++
    sectionEntry "aws" (givenEntry "region" (sectionValue? entries "aws" "region")) ++
    sectionEntry "orch" (givenEntry "enabled" (keptApps? entries))

/-- The steps from one version to the next, each under the version that it upgrades. -/
def steps : List (Nat × (List (Tree × Tree) → List (Tree × Tree))) := [(1, fromVersion1)]

/-- The version that a document claims, if there is a way from it to the current one. -/
def migratable? (found : Int) : Option Nat :=
  (if 0 ≤ found ∧ found < Attribute.wordLimit then some found.toNat else none).filter
    fun version => oldestVersion ≤ version && version ≤ currentVersion

def migrationLine (version : Nat) : Log.Line :=
  Log.infoLine
    ("Migrating config file from version " ++ toString version ++ " to " ++ toString (version + 1))

def migrateFrom (found : Int) (version : Nat) (entries : List (Tree × Tree)) :
    Except Failure (Log × List (Tree × Tree)) :=
  if version < currentVersion then
    match steps.find? fun step => step.1 == version with
    | none => .error (.unsupportedVersion found)
    | some (_, step) => do
        let (log, migrated) ← migrateFrom found (version + 1) (step entries)
        return (migrationLine version :: log, migrated)
  else .ok ([], entries)
termination_by currentVersion - version

def migrate (tree : Tree) : Except Failure (Log × Tree) := do
  let found ← version? tree
  match migratable? found, tree with
  | none, _ => throw (.unsupportedVersion found)
  | some version, .mapping entries =>
      let (log, migrated) ← migrateFrom found version entries
      return (log, .mapping migrated)
  | some _, _ => throw (.documentMalformed .topLevel)

end InstallerSetup.Config
