import InstallerSetup.Text.Utf8

/-!
# Tags

What a tag says about a node: one of the scalar types that reading knows, a name of the
application, or some other type, which leaves a scalar the text that is written.
-/

namespace InstallerSetup.Yaml

inductive Tag where
  | bool
  | int
  | float
  | null
  | application (name : String)
  | other
  deriving DecidableEq, Repr

namespace Tag

def standardPrefix : String := "tag:yaml.org,2002:"

/--
The meaning of a tag's bytes. The tags of an application begin with `!`; if such bytes are not a
text they mean nothing.
-/
def ofBytes? (bytes : List UInt8) : Option Tag :=
  match Text.decode? bytes with
  | .error _ => if bytes.head? = some (UInt8.ofNat '!'.toNat) then none else some other
  | .ok text =>
      match text.toList with
      | [] => none
      | ['!'] => some (application "!")
      | '!' :: name => some (application (String.ofList name))
      | _ =>
          if text = standardPrefix ++ "bool" then some bool
          else if text = standardPrefix ++ "int" then some int
          else if text = standardPrefix ++ "float" then some float
          else if text = standardPrefix ++ "null" then some null
          else some other

end Tag

end InstallerSetup.Yaml
