import InstallerSetup.Catalog.Basic
import InstallerSetup.Form.Slot
import InstallerSetup.Rule

/-!
# Forms

A form is a list of groups of fields. A group is shown if its condition holds in the state at the
time it is reached. A field knows its texts, the place it is bound to and its rule, but not how it
is shown.
-/

namespace InstallerSetup

namespace Form

open Yaml (Tree)

/-- An option of a field that takes one of several. -/
structure Choice where
  label : String
  /-- Whether the state has the option's value already. -/
  current : Bool
  setting : Setting

def Choice.describe (c : Choice) : String :=
  "Choice \x7b label: " ++ Text.quoted c.label ++ ", current: " ++ Tree.boolText c.current ++
    ", .. \x7d"

def Choice.describeLines (c : Choice) : String :=
  "Choice \x7b\n    label: " ++ Text.quoted c.label ++ ",\n    current: " ++
    Tree.boolText c.current ++ ",\n    ..\n\x7d"

/-- An option of a field that takes any of several. -/
structure Item where
  label : String
  id : String
  selected : Bool
  deriving DecidableEq, Repr

structure Field.Info where
  title : String
  description : String
  placeholder : String
  deriving DecidableEq, Repr

inductive Field.Kind where
  /-- One line, which may be masked. -/
  | input (slot : TextSlot) (rule : Rule) (masked : Bool)
  /-- Several lines. -/
  | text (slot : TextSlot) (rule : Rule)
  | confirm (slot : FlagSlot) (yes no : String)
  | select (choices : State → Catalog → List Choice)
  | multiSelect (items : State → Catalog → List Item) (slot : ListSlot) (rule : SetRule)

structure Field where
  info : Field.Info
  kind : Field.Kind

namespace Field

def titled (title : String) (kind : Kind) : Field := ⟨⟨title, "", ""⟩, kind⟩

def input (title : String) (slot : TextSlot) : Field := titled title (.input slot Rule.any false)

def password (title : String) (slot : TextSlot) : Field := titled title (.input slot Rule.any true)

def text (title : String) (slot : TextSlot) : Field := titled title (.text slot Rule.any)

def confirm (title yes no : String) (slot : FlagSlot) : Field :=
  titled title (.confirm slot yes no)

def select (title : String) (choices : State → Catalog → List Choice) : Field :=
  titled title (.select choices)

def multiSelect (title : String) (items : State → Catalog → List Item) (slot : ListSlot) : Field :=
  titled title (.multiSelect items slot SetRule.any)

def describe (field : Field) (description : String) : Field :=
  { field with info := { field.info with description := description } }

def suggest (field : Field) (placeholder : String) : Field :=
  { field with info := { field.info with placeholder := placeholder } }

/-- Gives a text field its rule; other fields stay as they are. -/
def checkedBy (field : Field) (rule : Rule) : Field :=
  match field.kind with
  | .input slot _ masked => { field with kind := .input slot rule masked }
  | .text slot _ => { field with kind := .text slot rule }
  | _ => field

def checkedAsSetBy (field : Field) (rule : SetRule) : Field :=
  match field.kind with
  | .multiSelect items slot _ => { field with kind := .multiSelect items slot rule }
  | _ => field

end Field

structure Group where
  title : String
  fields : List Field
  isVisible : State → Bool

namespace Group

def always (title : String) (fields : List Field) : Group := ⟨title, fields, fun _ => true⟩

def shownIf (group : Group) (condition : State → Bool) : Group :=
  { group with isVisible := condition }

end Group

end Form

/-- A list of groups in the order in which they are reached. -/
abbrev Form := List Form.Group

end InstallerSetup
