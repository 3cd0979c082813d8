import InstallerSetup.Yaml.Mismatch
import InstallerSetup.Yaml.Node

/-!
# Errors of reading

Why a text could not be read as a value of the wanted kind, and where. A `Path` leads from the root
of a document to a node.
-/

namespace InstallerSetup.Yaml

/-- The way to a node; none for the root. -/
abbrev Path := Option String

namespace Path

def text (path : Path) : String := path.getD "."

def item (path : Path) (index : Nat) : Path := some (text path ++ "[" ++ toString index ++ "]")

def entry (path : Path) (key : String) : Path :=
  match path with
  | none => some key
  | some parent => some (parent ++ "." ++ key)

end Path

inductive ReadError where
  | fault (fault : Fault)
  | unknownAnchor (mark : Mark)
  | endOfEvents
  | recursionLimit (mark : Mark)
  | repetitionLimit
  | severalDocuments
  | mismatch (reason : Mismatch) (mark : Mark) (path : Path)
  deriving Repr

namespace ReadError

def ofInterruption : Interruption → ReadError
  | .fault f => fault f
  | .unknownAnchor mark => unknownAnchor mark
  | .endOfEvents => endOfEvents

def mark? : ReadError → Option Mark
  | fault f => some f.mark
  | unknownAnchor mark | recursionLimit mark | mismatch _ mark _ => some mark
  | endOfEvents | repetitionLimit | severalDocuments => none

def message : ReadError → String
  | fault f => f.message
  | unknownAnchor mark => "unknown anchor" ++ mark.suffix
  | endOfEvents => "EOF while parsing a value"
  | recursionLimit mark => "recursion limit exceeded" ++ mark.suffix
  | repetitionLimit => "repetition limit exceeded"
  | severalDocuments =>
      "deserializing from YAML containing more than one document is not supported"
  | mismatch reason mark path =>
      let place := if path.text = "." then "" else path.text ++ ": "
      place ++ reason.message ++ mark.suffix

end ReadError

end InstallerSetup.Yaml
