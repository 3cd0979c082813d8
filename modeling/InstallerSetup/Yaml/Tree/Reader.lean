import InstallerSetup.Yaml.Plain
import InstallerSetup.Yaml.ReadError

/-!
# Reading a tree

`Tree.ofText?` reads the only document of a text as a tree. A mapping may not hold a key twice,
collections may be nested 128 deep, and the aliases of a document may be followed a hundred times as
often as it has events.
-/

namespace InstallerSetup.Yaml

def depthLimit : Nat := 128

/-- The number of aliases followed so far, or an error. -/
abbrev Reading := StateT Nat (Except ReadError)

namespace Document

def interruptionError (d : Document) : ReadError :=
  match d.interruption with
  | some interruption => .ofInterruption interruption
  | none => .endOfEvents

def follow (d : Document) (anchor : Nat) : Reading Node := do
  let count ← get
  if 100 * d.size < count + 1 then throw .repetitionLimit
  set (count + 1)
  return d.target anchor

/-- Ends the reading of a document: a fault behind the value counts, and so does more text. -/
def finish {α : Type} (d : Document) (read : Reading α) : Except ReadError α := do
  let (value, _) ← read 0
  if d.interruption.isSome then throw d.interruptionError
  if d.continues then throw .severalDocuments
  return value

end Document

namespace Tree

def ofScalar (tag : Option Tag) (text : String) (plain : Bool) : Except Mismatch Tree :=
  let written : Except Mismatch Tree :=
    if plain then
      match Plain.meaning text with
      | .tree value => .ok value
      | .wide n => .error (.wrongType (.wideInt n) "any YAML value")
    else .ok (.string text)
  let refused (expected : String) : Except Mismatch Tree :=
    .error (.wrongValue (.string text) expected)
  match tag with
  | some .bool =>
      match Plain.bool? text.toList with
      | some value => .ok (.bool value)
      | none => refused "a boolean"
  | some .int =>
      match Plain.bounded? text.toList with
      | some n =>
          if Plain.isNarrow n then .ok (.int n)
          else .error (.wrongType (.wideInt n) "any YAML value")
      | none => refused "an integer"
  | some .float =>
      match Plain.float? text.toList with
      | some value => .ok (.float value)
      | none => refused "a float"
  | some .null => if Plain.isNull text.toList then .ok .null else refused "null"
  | some .other => .ok (.string text)
  | some (.application name) =>
      match written with
      | .ok value => .ok (.tagged name value)
      | .error reason => .error reason
  | none => written

/-- The path of the value under a key, which is known only for scalar keys. -/
def keyPath (path : Path) : Node → Path
  | .scalar _ text _ => Path.entry path text
  | _ => Path.entry path "?"

def readEntries (read : Path → Node → Reading Tree) (path : Path) (mark : Mark) :
    List (Node × Node) → List (Tree × Tree) → Reading (List (Tree × Tree))
  | [], entries => return entries.reverse
  | (key, value) :: rest, entries => do
      let keyTree ← read path key
      if entries.any fun (known, _) => known.same keyTree then
        throw (.mismatch (.repeatedKey keyTree) mark path)
      let valueTree ← read (keyPath path key) value
      readEntries read path mark rest ((keyTree, valueTree) :: entries)

def readItems (read : Path → Node → Reading Tree) (path : Path) :
    List Node → Nat → List Tree → Reading (List Tree)
  | [], _, items => return items.reverse
  | node :: rest, index, items => do
      let item ← read (Path.item path index) node
      readItems read path rest (index + 1) (item :: items)

def withTag (tag : Option Tag) (tree : Tree) : Tree :=
  match tag with
  | some (.application name) => .tagged name tree
  | _ => tree

def isKept : Option Tag → Bool
  | some (.application _) => true
  | _ => false

mutual

/-- A key of a mapping whose tag is kept loses its own tag, and so do the keys within it. -/
def withoutTag : Node → Node
  | .scalar head text plain => .scalar { head with tag := none } text plain
  | .sequence head items => .sequence { head with tag := none } items
  | .mapping head entries => .mapping { head with tag := none } (withoutKeyTags entries)
  | node => node

def withoutKeyTags : List (Node × Node) → List (Node × Node)
  | [] => []
  | (key, value) :: rest => (withoutTag key, value) :: withoutKeyTags rest

end

/-- Reads a node; the first argument is the depth that is left for collections. -/
def readNode (d : Document) : Nat → Path → Node → Reading Tree
  | depth, path, node => do
      let node ← match node with
        | .reference _ anchor => d.follow anchor
        | node => pure node
      match node with
      | .scalar head text plain =>
          match ofScalar head.tag text plain with
          | .ok tree => return tree
          | .error reason => throw (.mismatch reason head.mark path)
      | .sequence head items =>
          match depth with
          | 0 => throw (.recursionLimit head.mark)
          | depth + 1 =>
              let items ← readItems (readNode d depth) path items 0 []
              return withTag head.tag (.sequence items)
      | .mapping head entries =>
          match depth with
          | 0 => throw (.recursionLimit head.mark)
          | depth + 1 =>
              let entries := if isKept head.tag then withoutKeyTags entries else entries
              let entries ← readEntries (readNode d depth) path head.mark entries []
              return withTag head.tag (.mapping entries)
      | .void _ => return .null
      | .reference .. | .cut => throw d.interruptionError

def ofText? (text : String) : Except ReadError Tree :=
  let d := Document.ofText text
  d.finish (readNode d depthLimit none d.root)

end Tree

end InstallerSetup.Yaml
