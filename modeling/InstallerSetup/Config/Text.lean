import InstallerSetup.Config.Migration
import InstallerSetup.Yaml.Tree.Reader
import InstallerSetup.Yaml.Tree.Writer

/-!
# The text of a configuration

`Config.parse` reads a document of any known version, `Config.render` writes one of the current
version.
-/

namespace InstallerSetup.Config

open Yaml (Mismatch Tree)

def ofTree (tree : Tree) : Except Failure Config :=
  match (Record.ofTree? tree : Except Mismatch Config) with
  | .ok config => .ok config
  | .error reason => .error (.documentMalformed (.mismatch reason))

/-- Reads a document, with a line in the log for each migration. -/
def parse (text : String) : Log × Except Failure Config :=
  match Tree.ofText? text with
  | .error error => ([], .error (.documentMalformed (.unreadable error)))
  | .ok tree =>
      match migrate tree with
      | .error failure => ([], .error failure)
      | .ok (log, migrated) => (log, ofTree migrated)

def ofText (text : String) : Except Failure Config := (parse text).2

def render (config : Config) : String := (Record.toTree config).render

end InstallerSetup.Config
