import InstallerSetup.Form.Basic
import InstallerSetup.Log
import InstallerSetup.Text.Blank
import InstallerSetup.Text.Pieces

/-!
# Completing a form

What is left to do when all questions are answered: scratch values go into the document, and a
missing password gets its initial value. No rule is applied again.
-/

namespace InstallerSetup.Form

/-- The entries of a list separated by commas, without blanks around them and without empty ones. -/
def listEntries (list : String) : List String :=
  (((Text.pieces ',' list.toList).map Text.trimChars).filter fun piece => !piece.isEmpty).map
    String.ofList

namespace State

def chosenApps (s : State) (catalog : Catalog) : List String :=
  match s.scratch.mode with
  | .simple => catalog.expand s.scratch.enabledSimple
  | .advanced => s.scratch.enabledAdvanced
  | .skip => s.config.orch.enabled.filter catalog.containsApp

def droppedApps (s : State) (catalog : Catalog) : List String :=
  match s.scratch.mode with
  | .skip => s.config.orch.enabled.filter fun id => !catalog.containsApp id
  | _ => []

/-- The jump hosts that were entered, or those of the document if none were. -/
def chosenJumpHosts (s : State) : List String :=
  if s.scratch.jumpHostWhitelist.isEmpty then s.config.aws.jumpHostWhitelist
  else listEntries s.scratch.jumpHostWhitelist

def chosenPassword (s : State) : String :=
  if s.config.orch.defaultPassword.isEmpty then Config.initialPassword
  else s.config.orch.defaultPassword

def complete (s : State) (catalog : Catalog) : State :=
  ListPlace.enabled.set
    (ListPlace.awsJumpHosts.set (TextPlace.defaultPassword.set s s.chosenPassword)
      s.chosenJumpHosts)
    (s.chosenApps catalog)

def completionLog (s : State) (catalog : Catalog) : Log :=
  let dropped := s.droppedApps catalog
  let warning :=
    if dropped.isEmpty then []
    else
      [Log.warnLine
        ("Dropping apps no longer in the package catalog: " ++ ", ".intercalate dropped)]
  warning ++
    [Log.debugLine
      ("Enabled " ++ toString (s.chosenApps catalog).length ++ " apps (" ++ s.scratch.mode.title ++
        " mode)")]

end State

end InstallerSetup.Form
