import InstallerSetup.Storage.Basic
import InstallerSetup.Text.Utf8

/-!
# Storage in a directory

A directory with files and directories in it, and relative paths that are followed name by name. New
content is first written beside its path, so the directory of the path has to exist.
-/

namespace InstallerSetup.Storage

inductive Entry where
  | file (content : List UInt8)
  | directory
  deriving DecidableEq, Repr

structure Directory where
  entries : List (List String × Entry)
  deriving Repr

namespace Directory

def empty : Directory := ⟨[]⟩

/-- What lies at the end of some names; no names lead to the directory itself. -/
def entry? (d : Directory) (names : List String) : Option Entry :=
  if names.isEmpty then some .directory
  else (d.entries.find? fun (known, _) => known == names).map Prod.snd

def put (d : Directory) (names : List String) (entry : Entry) : Directory :=
  ⟨(names, entry) :: d.entries.filter fun (known, _) => known != names⟩

def makeDirectories (d : Directory) : List String → Directory
  | names =>
      (List.range names.length).foldl (fun d i =>
        let upTo := names.take (i + 1)
        if (d.entry? upTo).isSome then d else d.put upTo .directory) d

def withFile (d : Directory) (path : String) (content : List UInt8) : Directory :=
  let names := (components path).filter (· != ".")
  (d.makeDirectories names.dropLast).put names (.file content)

def withDirectory (d : Directory) (path : String) : Directory :=
  d.makeDirectories ((components path).filter (· != "."))

def fault : Fault.Kind → Fault
  | .notFound => .ofCode 2
  | .busy => .ofCode 16
  | .notDirectory => .ofCode 20
  | .isDirectory => .ofCode 21
  | .invalidName => .ofCode 36
  | .invalidData => ⟨.invalidData, "stream did not contain valid UTF-8"⟩
  | .invalidInput => ⟨.invalidInput, "file name contained an unexpected NUL byte"⟩
  | kind => ⟨kind, ""⟩

/-- The longest name that an entry can have, in bytes. -/
def nameLimit : Nat := 255

/--
Goes down the parts of a path from a place that exists, and gives the names that lead to the end.
Every part but a name needs a directory in front of it, and so does a name.
-/
def follow (d : Directory) : List String → List String → Except Fault.Kind (List String)
  | place, [] => .ok place
  | place, part :: rest =>
      match d.entry? place with
      | none => .error .notFound
      | some (.file _) => .error .notDirectory
      | some .directory =>
          if part = "" || part = "." then follow d place rest
          else if part = ".." then follow d place.dropLast rest
          else if nameLimit < part.utf8ByteSize then .error .invalidName
          else follow d (place ++ [part]) rest

/-- The names that a path leads to, which need not exist. -/
def locate (d : Directory) (path : String) : Except Fault.Kind (List String) :=
  if path.isEmpty then .error .notFound
  else if path.toList.contains '\x00' then .error .invalidInput
  else if path.toList.head? = some '/' then .error .notFound
  else follow d [] (pathParts path)

def read (d : Directory) (path : String) : Except Fault String :=
  match d.locate path with
  | .error kind => .error (fault kind)
  | .ok names =>
      match d.entry? names with
      | none => .error (fault .notFound)
      | some .directory => .error (fault .isDirectory)
      | some (.file content) =>
          match Text.decode? content with
          | .ok text => .ok text
          | .error _ => .error (fault .invalidData)

/-- The directory that new content for a path is first written to. -/
def workingDirectory (path : String) : String :=
  let parent := (components path).dropLast
  if parent.isEmpty then "." else "/".intercalate parent

def checkDirectory (d : Directory) (path : String) : Except Fault.Kind Unit :=
  match d.locate path with
  | .error kind => .error kind
  | .ok names =>
      match d.entry? names with
      | none => .error .notFound
      | some (.file _) => .error .notDirectory
      | some .directory => .ok ()

/-- The names of the entry that a path lets be replaced. -/
def destination (d : Directory) (path : String) : Except Fault.Kind (List String) := do
  d.checkDirectory (workingDirectory path)
  let parts := pathParts path
  let named := parts.reverse.dropWhile (· == "")
  let parent ← follow d [] named.tail.reverse
  match named.head? with
  | none => throw .notFound
  | some name =>
      match d.entry? parent with
      | none => throw .notFound
      | some (.file _) => throw .notDirectory
      | some .directory =>
          if name = "." || name = ".." then throw .busy
          if nameLimit < name.utf8ByteSize then throw .invalidName
          if parts.getLast? = some "" then throw .notDirectory
          let names := parent ++ [name]
          if d.entry? names = some .directory then throw .isDirectory
          return names

def replace (d : Directory) (path : String) (content : List UInt8) : Except Fault Directory :=
  if path.toList.contains '\x00' then .error (fault .invalidInput)
  else
    match d.destination path with
    | .error kind => .error (fault kind)
    | .ok names => .ok (d.put names (.file content))

instance : Storage Directory := ⟨read, replace⟩

end Directory

end InstallerSetup.Storage
