/-!
# Faults of storage

What goes wrong when a file is read or written: a kind to decide by and a text to show.
-/

namespace InstallerSetup.Storage

inductive Fault.Kind where
  | notFound
  | permissionDenied
  | isDirectory
  | notDirectory
  /-- The content is no text. -/
  | invalidData
  | invalidInput
  | invalidName
  | busy
  | interrupted
  | unexpectedEnd
  | other
  deriving DecidableEq, Repr

structure Fault where
  kind : Fault.Kind
  message : String
  deriving DecidableEq, Repr

def Fault.Kind.ofCode : Nat → Fault.Kind
  | 2 => notFound
  | 1 | 13 => permissionDenied
  | 4 => interrupted
  | 16 => busy
  | 20 => notDirectory
  | 21 => isDirectory
  | 22 => invalidInput
  | 36 => invalidName
  | _ => other

def Fault.words? : Nat → Option String
  | 1 => some "Operation not permitted"
  | 2 => some "No such file or directory"
  | 4 => some "Interrupted system call"
  | 5 => some "Input/output error"
  | 13 => some "Permission denied"
  | 16 => some "Device or resource busy"
  | 20 => some "Not a directory"
  | 21 => some "Is a directory"
  | 22 => some "Invalid argument"
  | 28 => some "No space left on device"
  | 30 => some "Read-only file system"
  | 32 => some "Broken pipe"
  | 36 => some "File name too long"
  | 40 => some "Too many levels of symbolic links"
  | _ => none

def Fault.ofCode (code : Nat) : Fault :=
  ⟨.ofCode code, (words? code).getD "Unknown error" ++ " (os error " ++ toString code ++ ")"⟩

end InstallerSetup.Storage
