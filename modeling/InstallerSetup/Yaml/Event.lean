import InstallerSetup.Yaml.Mark
import InstallerSetup.Yaml.Tag

/-!
# Events

The structure of a YAML text in the order in which it is met: scalars, aliases, and the beginnings
and ends of collections and documents.
-/

namespace InstallerSetup.Yaml

structure Properties where
  anchor : Option String
  tag : Option Tag
  deriving DecidableEq, Repr

def Properties.none : Properties := ⟨Option.none, Option.none⟩

namespace Event

inductive Kind where
  | streamStart
  | streamEnd
  | documentStart
  | documentEnd
  | reference (name : String)
  | scalar (properties : Properties) (text : String) (plain : Bool)
  | sequenceStart (properties : Properties)
  | sequenceEnd
  | mappingStart (properties : Properties)
  | mappingEnd
  deriving DecidableEq, Repr

end Event

structure Event where
  kind : Event.Kind
  mark : Mark
  deriving DecidableEq, Repr

end InstallerSetup.Yaml
