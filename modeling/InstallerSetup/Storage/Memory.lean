import InstallerSetup.Storage.Basic
import InstallerSetup.Text.Utf8

/-!
# Storage in memory

Files in a list, some paths closed to writing, and a count of the writes.
-/

namespace InstallerSetup.Storage

structure Memory where
  /-- The files by the components of their paths; the first one with a path counts. -/
  files : List (List String × List UInt8)
  readOnly : List (List String)
  writes : Nat
  deriving Repr

namespace Memory

def empty : Memory := ⟨[], [], 0⟩

def content? (m : Memory) (path : String) : Option (List UInt8) :=
  (m.files.find? fun (known, _) => known == components path).map Prod.snd

def withFile (m : Memory) (path : String) (content : List UInt8) : Memory :=
  { m with files := (components path, content) :: m.files }

def withReadOnly (m : Memory) (path : String) : Memory :=
  { m with readOnly := components path :: m.readOnly }

def isReadOnly (m : Memory) (path : String) : Bool := m.readOnly.contains (components path)

def read (m : Memory) (path : String) : Except Fault String :=
  match m.content? path with
  | none => .error ⟨.notFound, "File not found: " ++ path⟩
  | some content =>
      match Text.decode? content with
      | .ok text => .ok text
      | .error malformed => .error ⟨.invalidData, "Invalid UTF-8: " ++ malformed.message⟩

def replace (m : Memory) (path : String) (content : List UInt8) : Except Fault Memory :=
  if m.isReadOnly path then .error ⟨.permissionDenied, "Read-only file: " ++ path⟩
  else .ok { m.withFile path content with writes := m.writes + 1 }

instance : Storage Memory := ⟨read, replace⟩

end Memory

end InstallerSetup.Storage
