import InstallerSetup.Storage.Fault
import InstallerSetup.Text.Pieces

/-!
# Storage

A `Storage` holds files under paths. Two paths are the same file if they have the same components.
-/

namespace InstallerSetup

/-- What a run needs of the place where its files are. -/
class Storage (σ : Type) where
  /-- The text of a file. -/
  read : σ → String → Except Storage.Fault String
  /-- Puts new content in place of a file, or leaves everything as it was. -/
  replace : σ → String → List UInt8 → Except Storage.Fault σ

namespace Storage

def pathParts (path : String) : List String :=
  (Text.pieces '/' path.toList).map String.ofList

/--
The components of a path: its names, with a slash in front of an absolute path and a dot in front of
a path that begins with one. Other dots and needless slashes do not count.
-/
def components (path : String) : List String :=
  let names (parts : List String) := parts.filter fun part => part != "" && part != "."
  match pathParts path with
  | [] => []
  | [""] => []
  | "" :: rest => "/" :: names rest
  | "." :: rest => "." :: names rest
  | parts => names parts

end Storage

end InstallerSetup
