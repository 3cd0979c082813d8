import InstallerSetup.Catalog.Basic
import InstallerSetup.Failure
import InstallerSetup.Yaml.Tree.Reader
import InstallerSetup.Yaml.Tree.Writer

/-!
# The text of a catalog

`Catalog.ofText` reads a catalog from the nodes of a document, so that an error can name the place
of the value that does not fit. Names and descriptions are the texts of scalars as they are written;
values under unknown keys are passed over.
-/

namespace InstallerSetup.Catalog

open Yaml (Document Mark Mismatch Node Path ReadError Reading Tree)

def scalarMismatch (head : Yaml.NodeHead) (text : String) (plain : Bool) (expected : String) :
    Mismatch :=
  match Tree.ofScalar head.tag text plain with
  | .ok tree => .wrongType (.ofTree tree) expected
  | .error (.wrongType found _) => .wrongType found expected
  | .error reason => reason

def resolve (d : Document) : Node → Reading Node
  | .reference _ anchor => d.follow anchor
  | node => return node

def readText (d : Document) (expected : String) (path : Path) (node : Node) : Reading String := do
  match ← resolve d node with
  | .scalar _ text _ => return text
  | .sequence head _ => throw (.mismatch (.wrongType .sequence expected) head.mark path)
  | .mapping head _ => throw (.mismatch (.wrongType .mapping expected) head.mark path)
  | .reference .. | .void _ | .cut => throw d.interruptionError

/-- The entries of a mapping and its place; nothing at all counts as an empty mapping. -/
def readMapping (d : Document) (expected : String) (path : Path) (node : Node) :
    Reading (Mark × List (Node × Node)) := do
  match ← resolve d node with
  | .mapping head entries => return (head.mark, entries)
  | .void mark => return (mark, [])
  | .scalar head text plain =>
      if plain && text.isEmpty then return (head.mark, [])
      else throw (.mismatch (scalarMismatch head text plain expected) head.mark path)
  | .sequence head _ => throw (.mismatch (.wrongType .sequence expected) head.mark path)
  | .reference .. | .cut => throw d.interruptionError

/-- A map from identifiers; the last entry with an identifier counts. -/
def readMap {α : Type} (d : Document) (read : Path → Node → Reading α) (path : Path) (node : Node) :
    Reading (KeyMap α) := do
  let (_, entries) ← readMapping d "a map" path node
  let pairs ← entries.mapM fun (key, value) => do
    let id ← readText d "a string" path key
    let content ← read (Tree.keyPath path key) value
    return (id, content)
  return KeyMap.ofList pairs

/-- A named part of a record. -/
structure Part (σ : Type) where
  key : String
  read : Path → Node → Reading (σ → σ)

/-- Reads the entries of a record, whose parts may occur once each. -/
def readParts {σ : Type} (d : Document) (parts : List (Part σ)) (path : Path) (mark : Mark) :
    List (Node × Node) → List String → σ → Reading (List String × σ)
  | [], seen, s => return (seen, s)
  | (key, value) :: rest, seen, s => do
      let name ← readText d "field identifier" path key
      match parts.find? fun part => part.key == name with
      | some part =>
          if seen.contains name then throw (.mismatch (.repeatedField name) mark path)
          let update ← part.read (Tree.keyPath path key) value
          readParts d parts path mark rest (name :: seen) (update s)
      | none =>
          if !value.isWhole then throw d.interruptionError
          readParts d parts path mark rest seen s

def readRecord {σ : Type} (d : Document) (label : String) (parts : List (Part σ)) (fresh : σ)
    (path : Path) (node : Node) : Reading σ := do
  let (mark, entries) ← readMapping d ("struct " ++ label) path node
  let (seen, s) ← readParts d parts path mark entries [] fresh
  if !seen.contains "name" then throw (.mismatch (.missingField "name") mark path)
  return s

def textPart {σ : Type} (d : Document) (key : String) (set : σ → String → σ) : Part σ where
  key := key
  read path node := do
    let text ← readText d "a string" path node
    return fun s => set s text

def readApp (d : Document) : Path → Node → Reading App :=
  readRecord d "App"
    [textPart d "name" fun app v => { app with name := v },
      textPart d "description" fun app v => { app with description := v }]
    ⟨"", ""⟩

def readPackage (d : Document) : Path → Node → Reading Package :=
  readRecord d "Package"
    [textPart d "name" fun package v => { package with name := v },
      textPart d "description" fun package v => { package with description := v },
      { key := "apps"
        read := fun path node => do
          let apps ← readMap d (readApp d) path node
          return fun package => { package with apps := apps } }]
    ⟨"", "", .empty⟩

def ofText? (text : String) : Except ReadError Catalog :=
  let d := Document.ofText text
  d.finish do
    let packages ← readMap d (readPackage d) none d.root
    return ⟨packages⟩

def ofText (text : String) : Except Failure Catalog :=
  match ofText? text with
  | .ok catalog => .ok catalog
  | .error error => .error (.catalogMalformed error)

def render (c : Catalog) : String := c.toTree.render

end InstallerSetup.Catalog
