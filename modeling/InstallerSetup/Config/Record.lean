import InstallerSetup.KeyMap
import InstallerSetup.Yaml.Mismatch

/-!
# Records of a document

A record is a mapping with named attributes. `Attribute` says how one of them is written, which is
not at all for an absent value, and how it is read. What a mapping holds besides is kept in the
record's map of unknown keys. `Record.toTree` and `Record.ofTree?` write and read whole records.
-/

namespace InstallerSetup.Config

open InstallerSetup.Yaml (Tree Mismatch Found)

abbrev Extra := KeyMap Tree

structure Attribute (σ : Type) where
  key : String
  /-- Whether a mapping without the key is refused. -/
  required : Bool
  write : σ → Option Tree
  read : Tree → Except Mismatch (σ → σ)

class Record (σ : Type) where
  /-- How messages name the record. -/
  label : String
  /-- The record of an empty mapping. -/
  fresh : σ
  attributes : List (Attribute σ)
  extra : σ → Extra
  withExtra : σ → Extra → σ

namespace Attribute

variable {σ : Type}

/-- The text of a scalar of any kind; the null value counts as empty. -/
def scalarText : Tree → Except Mismatch String
  | .string text => .ok text
  | .int value => .ok (Tree.intText value)
  | .float value => .ok (Tree.floatText value)
  | .bool value => .ok (Tree.boolText value)
  | .null => .ok ""
  | tree => .error (.notScalar tree)

/-- A text, read from any scalar and written unless it is empty. -/
def text (key : String) (get : σ → String) (set : σ → String → σ) : Attribute σ where
  key := key
  required := false
  write s := if (get s).isEmpty then none else some (.string (get s))
  read tree := do
    let value ← scalarText tree
    return fun s => set s value

def flag (key : String) (get : σ → Bool) (set : σ → Bool → σ) : Attribute σ where
  key := key
  required := false
  write s := if get s then some (.bool true) else none
  read tree :=
    match tree.untagged with
    | .bool value => .ok fun s => set s value
    | other => .error (.wrongType (.ofTree other) "a boolean")

/-- A text that must be written as one. -/
def textOnly (tree : Tree) : Except Mismatch String :=
  match tree.untagged with
  | .string text => .ok text
  | other => .error (.wrongType (.ofTree other) "a string")

def texts (key : String) (get : σ → List String) (set : σ → List String → σ) : Attribute σ where
  key := key
  required := false
  write s := if (get s).isEmpty then none else some (.sequence ((get s).map .string))
  read tree :=
    match tree.untagged with
    | .sequence items => do
        let values ← items.mapM textOnly
        return fun s => set s values
    | .null => .ok fun s => set s []
    | other => .error (.wrongType (.ofTree other) "a sequence")

/-- The least number that does not fit into 32 bits, `2 ^ 32`. -/
def wordLimit : Int := 4294967296

def word (tree : Tree) : Except Mismatch Nat :=
  match tree.untagged with
  | .int value =>
      if 0 ≤ value ∧ value < wordLimit then .ok value.toNat
      else .error (.wrongValue (.int value) "u32")
  | other => .error (.wrongType (.ofTree other) "u32")

end Attribute

namespace Record

variable {σ : Type} [Record σ]

/-- The entries of a mapping: the attributes that have a value, then the unknown keys. -/
def entries (s : σ) : List (Tree × Tree) :=
  ((attributes : List (Attribute σ)).filterMap fun a =>
      (a.write s).map fun value => (.string a.key, value)) ++
    (extra s).entries.map fun (key, value) => (.string key, value)

def toTree (s : σ) : Tree := .mapping (entries s)

def isFresh (s : σ) : Bool := (entries s).isEmpty

def same (s t : σ) : Bool := (toTree s).same (toTree t)

def keyText (tree : Tree) : Except Mismatch String :=
  match tree.untagged with
  | .string text => .ok text
  | other => .error (.wrongType (.ofTree other) "field identifier")

def attribute? (key : String) : Option (Attribute σ) :=
  (attributes : List (Attribute σ)).find? fun a => a.key == key

/--
Reads the entries of a mapping one after the other. A key may occur once as an attribute, and a
value under an unknown key may not hold a tag.
-/
def readEntries : List (Tree × Tree) → List String → σ → Except Mismatch (List String × σ)
  | [], seen, s => .ok (seen, s)
  | (keyTree, value) :: rest, seen, s =>
      match keyText keyTree with
      | .error reason => .error reason
      | .ok key =>
          match (attribute? key : Option (Attribute σ)) with
          | some a =>
              if seen.contains key then .error (.repeatedField key)
              else
                match a.read value with
                | .error reason => .error reason
                | .ok update => readEntries rest (key :: seen) (update s)
          | none =>
              if value.hasTag then .error .strayTag
              else readEntries rest seen (withExtra s ((extra s).insert key value))

def missing? (σ : Type) [Record σ] (seen : List String) : Option String :=
  ((attributes : List (Attribute σ)).find? fun a => a.required && !seen.contains a.key).map
    Attribute.key

/-- Reads a mapping; the null value counts as an empty one. -/
def ofTree? (tree : Tree) : Except Mismatch σ :=
  let read (entries : List (Tree × Tree)) : Except Mismatch σ := do
    let (seen, s) ← readEntries entries [] (fresh : σ)
    match missing? σ seen with
    | some key => throw (.missingField key)
    | none => return s
  match tree.untagged with
  | .mapping entries => read entries
  | .null => read []
  | other => .error (.wrongType (.ofTree other) ("struct " ++ Record.label σ))

end Record

def Attribute.record {σ τ : Type} [Record τ] (key : String) (get : σ → τ) (set : σ → τ → σ) :
    Attribute σ where
  key := key
  required := false
  write s := if Record.isFresh (get s) then none else some (Record.toTree (get s))
  read tree := do
    let value ← (Record.ofTree? tree : Except Mismatch τ)
    return fun s => set s value

end InstallerSetup.Config
