import InstallerSetup.Form.Basic

/-!
# Questions

What a user is asked when a field has the focus, with the value that the answer starts from.
-/

namespace InstallerSetup.Form

inductive Question where
  | input (current : String) (masked : Bool)
  | text (current : String)
  | confirm (yes no : String) (current : Bool)
  | select (options : List String) (start : Nat)
  | multiSelect (options : List String) (selected : List Bool)
  deriving DecidableEq, Repr

/-- The option that is current, or else the first one. -/
def startIndex (choices : List Choice) : Nat := (choices.findIdx? Choice.current).getD 0

def selectedIndices (items : List Item) : List Nat :=
  (List.range items.length).filter fun i => (items[i]?.map Item.selected).getD false

def marks (count : Nat) (indices : List Nat) : List Bool :=
  (List.range count).map fun i => indices.contains i

end InstallerSetup.Form
