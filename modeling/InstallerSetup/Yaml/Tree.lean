import InstallerSetup.Decimal.Shortest
import InstallerSetup.Text.Quoted

/-!
# Trees

The generic value of a YAML text. Two trees have the same value (`Tree.same`) if they agree up to
the order of mapping entries, the sign of a zero and a mark in front of a tag.
-/

namespace InstallerSetup.Yaml

open InstallerSetup.Decimal (Binary64 Layout)

/-- A generic value; integers lie between `-2 ^ 63` and `2 ^ 64 - 1`. -/
inductive Tree where
  | null
  | bool (value : Bool)
  | int (value : Int)
  | float (value : Binary64)
  | string (value : String)
  | sequence (items : List Tree)
  | mapping (entries : List (Tree × Tree))
  | tagged (tag : String) (value : Tree)
  deriving Repr, Inhabited

namespace Tree

/-- A tag without the mark in front of it, unless it is nothing but that mark. -/
def bareTag (tag : String) : String :=
  match tag.toList with
  | '!' :: c :: rest => String.ofList (c :: rest)
  | _ => tag

mutual

def same : Tree → Tree → Bool
  | .null, .null => true
  | .bool a, .bool b => a == b
  | .int a, .int b => a == b
  | .float a, .float b => a.same b
  | .string a, .string b => a == b
  | .sequence as, .sequence bs => sameItems as bs
  | .mapping as, .mapping bs => as.length == bs.length && sameEntries as bs
  | .tagged s a, .tagged t b => bareTag s == bareTag t && same a b
  | _, _ => false

def sameItems : List Tree → List Tree → Bool
  | [], [] => true
  | a :: as, b :: bs => same a b && sameItems as bs
  | _, _ => false

/-- Whether each of the first entries is among the second ones. -/
def sameEntries : List (Tree × Tree) → List (Tree × Tree) → Bool
  | [], _ => true
  | (key, a) :: rest, others =>
      (others.any fun (other, b) => same key other && same a b) && sameEntries rest others

end

def untagged : Tree → Tree
  | .tagged _ value => value.untagged
  | tree => tree

mutual

def hasTag : Tree → Bool
  | .tagged .. => true
  | .sequence items => itemsHaveTag items
  | .mapping entries => entriesHaveTag entries
  | _ => false

def itemsHaveTag : List Tree → Bool
  | [] => false
  | item :: rest => item.hasTag || itemsHaveTag rest

def entriesHaveTag : List (Tree × Tree) → Bool
  | [] => false
  | (key, value) :: rest => key.hasTag || value.hasTag || entriesHaveTag rest

end

def lookup? (entries : List (Tree × Tree)) (key : String) : Option Tree :=
  (entries.find? fun (k, _) => match k with
    | .string text => text == key
    | _ => false).map Prod.snd

/-- The value under a text key of a mapping, whatever tags stand around the mapping. -/
def get? (tree : Tree) (key : String) : Option Tree :=
  match tree.untagged with
  | .mapping entries => lookup? entries key
  | _ => none

def intText (n : Int) : String := toString n

def floatText (x : Binary64) : String := Layout.document.render x

mutual

def describe : Tree → String
  | .null => "Null"
  | .bool value => "Bool(" ++ boolText value ++ ")"
  | .int value => "Number(" ++ intText value ++ ")"
  | .float value => "Number(" ++ floatText value ++ ")"
  | .string value => "String(" ++ Text.quoted value ++ ")"
  | .sequence items => "Sequence [" ++ ", ".intercalate (describeList items) ++ "]"
  | .mapping entries => "Mapping \x7b" ++ ", ".intercalate (describeEntries entries) ++ "\x7d"
  | .tagged tag value =>
      "TaggedValue \x7b tag: !" ++ bareTag tag ++ ", value: " ++ value.describe ++ " \x7d"

def boolText (b : Bool) : String := if b then "true" else "false"

def describeList : List Tree → List String
  | [] => []
  | item :: rest => item.describe :: describeList rest

def describeEntries : List (Tree × Tree) → List String
  | [] => []
  | (key, value) :: rest =>
      (key.describeKey ++ ": " ++ value.describe) :: describeEntries rest

def describeKey : Tree → String
  | .bool value => boolText value
  | .int value => intText value
  | .float value => floatText value
  | .string value => Text.quoted value
  | tree => tree.describe

end

end Tree

end InstallerSetup.Yaml
