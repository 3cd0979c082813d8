import InstallerSetup.Yaml.Mark

/-!
# Tokens

The lexical units of a YAML text. Indentation shows as tokens of its own: a block collection has a
start token where it becomes more indented and a `blockEnd` where it ends.
-/

namespace InstallerSetup.Yaml

/-- How a scalar is written, as far as its meaning depends on it. -/
inductive ScalarStyle where
  | plain
  | quoted
  | block
  deriving DecidableEq, Repr

namespace Token

inductive Kind where
  | streamStart
  | streamEnd
  | versionDirective (major minor : Nat)
  | tagDirective (handle : List UInt8) (expansion : List UInt8)
  | documentStart
  | documentEnd
  | blockSequenceStart
  | blockMappingStart
  | blockEnd
  | flowSequenceStart
  | flowSequenceEnd
  | flowMappingStart
  | flowMappingEnd
  | blockEntry
  | flowEntry
  | key
  | value
  | reference (name : String)
  | anchor (name : String)
  | tag (handle : List UInt8) (suffix : List UInt8)
  | scalar (text : String) (style : ScalarStyle)
  deriving DecidableEq, Repr

end Token

/-- A token, the mark where it begins and the mark where reading went on after it. -/
structure Token where
  kind : Token.Kind
  start : Mark
  stop : Mark
  deriving DecidableEq, Repr

end InstallerSetup.Yaml
