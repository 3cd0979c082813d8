import InstallerSetup.Storage.Fault
import InstallerSetup.Yaml.ReadError

/-!
# Failures

The ways in which a run fails: what was wrong, how it is said, and the exit code it ends with.
-/

namespace InstallerSetup

open Yaml (Mismatch ReadError)

inductive Malformation where
  | unreadable (error : ReadError)
  | topLevel
  | version
  | mismatch (reason : Mismatch)
  /-- A cause known by its text alone. -/
  | other (text : String)
  deriving Repr

namespace Malformation

def located (error : ReadError) : String :=
  match error.mark? with
  | some mark =>
      "line " ++ toString (mark.line + 1) ++ ", column " ++ toString (mark.column + 1) ++ ": " ++
        error.message
  | none => error.message

def message : Malformation → String
  | unreadable error => located error
  | topLevel => "top level of config file must be a mapping"
  | version => "version is not an integer in config file"
  | mismatch reason => reason.message
  | other text => text

end Malformation

inductive Failure where
  /-- The value of a field was refused. -/
  | invalidField (field reason : String)
  | catalogUnreadable (path : String) (fault : Storage.Fault)
  | catalogMalformed (error : ReadError)
  | documentUnreadable (path : String) (fault : Storage.Fault)
  | documentMalformed (cause : Malformation)
  | missingVersion
  | unsupportedVersion (found : Int)
  /-- The user gave up. -/
  | aborted
  | terminal (reason : String)
  | unwritable (path : String) (fault : Storage.Fault)
  deriving Repr

namespace Failure

def message : Failure → String
  | invalidField field reason => "invalid " ++ field ++ ": " ++ reason
  | catalogUnreadable path fault =>
      "failed to read package catalog " ++ path ++ ": " ++ fault.message
  | catalogMalformed error => "failed to decode package catalog: " ++ error.message
  | documentUnreadable path fault => "failed to read config file " ++ path ++ ": " ++ fault.message
  | documentMalformed cause => "failed to decode config file: " ++ cause.message
  | missingVersion => "version not found in config file"
  | unsupportedVersion found => "unsupported config file version: " ++ toString found
  | aborted => "configuration aborted by user"
  | terminal reason => "terminal error: " ++ reason
  | unwritable path fault => "failed to write config file " ++ path ++ ": " ++ fault.message

def exitCode : Failure → Nat
  | invalidField .. => 1
  | catalogUnreadable .. | catalogMalformed .. => 2
  | documentUnreadable .. | documentMalformed .. | missingVersion | unsupportedVersion .. => 3
  | aborted | terminal .. => 4
  | unwritable .. => 5

def source? : Failure → Option String
  | catalogUnreadable _ fault | documentUnreadable _ fault | unwritable _ fault =>
      some fault.message
  | catalogMalformed error => some error.message
  | _ => none

/-- What a field shows when its value is refused: the bare reason. -/
def complaint : Failure → String
  | invalidField _ reason => reason
  | failure => failure.message

end Failure

end InstallerSetup
