import InstallerSetup.Run
import InstallerSetup.Terminal

/-!
# The program

What the program comes to for its arguments: what it prints, logs and shows, and its exit code.
-/

namespace InstallerSetup.Program

structure Ending (σ : Type) where
  exitCode : Nat
  /-- What goes to the standard output. -/
  printed : String
  /-- The lines of the log that are shown. -/
  log : Log
  /-- What is shown besides the log. -/
  screen : String
  store : σ

def ofStop {σ : Type} (startedAs : String) (stop : CommandLine.Stop) (store : σ) : Ending σ :=
  let text := stop.message startedAs
  if stop.isError then
    ⟨stop.exitCode, "", [], text ++ "\n\nFor more information, try '--help'.\n", store⟩
  else ⟨stop.exitCode, text, [], "", store⟩

def errorLog {α : Type} : Except Run.Error α → Log
  | .ok _ => []
  | .error error => [Log.errorLine error.message]

def exitCode {α : Type} : Except Run.Error α → Nat
  | .ok _ => 0
  | .error error => error.exitCode

def ofOutcome {σ : Type} (o : Options) (outcome : Run.Outcome σ) : Ending σ :=
  ⟨exitCode outcome.result, outcome.printed,
    (outcome.log ++ errorLog outcome.result).shown o.debug,
    match outcome.report with
    | some report => Terminal.screen report
    | none => "",
    outcome.store⟩

def unattended {σ : Type} [Storage σ] (startedAs : String) (arguments : List String) (store : σ) :
    Ending σ :=
  match CommandLine.parse arguments with
  | .error stop => ofStop startedAs stop store
  | .ok o => ofOutcome o (Run.runWith o store .reliable Terminal.unattended)

end InstallerSetup.Program
