import InstallerSetup.Yaml.Tree

/-!
# Reasons why a value does not fit

A `Mismatch` says why a value that is YAML is not a value of the wanted kind. `Found` is the kind of
value that was met.
-/

namespace InstallerSetup.Yaml

open InstallerSetup.Decimal (Binary64 Layout)

inductive Found where
  | unit
  | bool (value : Bool)
  | int (value : Int)
  /-- An integer that needs more than 64 bits. -/
  | wideInt (value : Int)
  | float (value : Binary64)
  | string (value : String)
  | sequence
  | mapping
  deriving Repr

namespace Found

def text : Found → String
  | unit => "unit value"
  | bool value => "boolean \x60" ++ Tree.boolText value ++ "\x60"
  | int value => "integer \x60" ++ toString value ++ "\x60"
  | wideInt value =>
      "integer \x60" ++ toString value ++ (if value < 0 then "\x60 as i128" else "\x60 as u128")
  | float value => "floating point \x60" ++ Layout.positional.render value ++ "\x60"
  | string value => "string " ++ Text.quoted value
  | sequence => "sequence"
  | mapping => "map"

/-- The kind of a tree, without the tags around it. -/
def ofTree : Tree → Found
  | .null => unit
  | .bool value => bool value
  | .int value => int value
  | .float value => float value
  | .string value => string value
  | .sequence _ => sequence
  | .mapping _ => mapping
  | .tagged _ value => ofTree value

end Found

inductive Mismatch where
  | wrongType (found : Found) (expected : String)
  | wrongValue (found : Found) (expected : String)
  | repeatedKey (key : Tree)
  | repeatedField (name : String)
  | missingField (name : String)
  | unknownVariant (name : String) (known : List String)
  /-- A tagged value where no tag can be kept. -/
  | strayTag
  | notScalar (value : Tree)
  /-- A number of nodes that is no preset. -/
  | noSuchScale (nodes : Nat)
  deriving Repr

namespace Mismatch

def keyText : Tree → String
  | .null => "with null key"
  | .bool value => "with key \x60" ++ Tree.boolText value ++ "\x60"
  | .int value => "with key " ++ Tree.intText value
  | .float value => "with key " ++ Tree.floatText value
  | .string value => "with key " ++ Text.quoted value
  | _ => "in YAML map"

def alternatives : List String → String
  | [] => "nothing"
  | [a] => "\x60" ++ a ++ "\x60"
  | [a, b] => "\x60" ++ a ++ "\x60 or \x60" ++ b ++ "\x60"
  | names => "one of " ++ ", ".intercalate (names.map fun a => "\x60" ++ a ++ "\x60")

def message : Mismatch → String
  | wrongType found expected => "invalid type: " ++ found.text ++ ", expected " ++ expected
  | wrongValue found expected => "invalid value: " ++ found.text ++ ", expected " ++ expected
  | repeatedKey key => "duplicate entry " ++ keyText key
  | repeatedField name => "duplicate field \x60" ++ name ++ "\x60"
  | missingField name => "missing field \x60" ++ name ++ "\x60"
  | unknownVariant name known =>
      "unknown variant \x60" ++ name ++ "\x60, expected " ++ alternatives known
  | strayTag => "untagged and internally tagged enums do not support enum input"
  | notScalar value => "expected a scalar value, got " ++ value.describe
  | noSuchScale nodes =>
      "scale must be one of: 10, 100, 500, 1000, 10000 (got " ++ toString nodes ++ ")"

end Mismatch

end InstallerSetup.Yaml
