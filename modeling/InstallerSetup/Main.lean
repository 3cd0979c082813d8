import InstallerSetup.Program
import InstallerSetup.Storage.Directory

/-!
# The program's outer layer

Files, the terminal and the exit code. On a terminal the form is run again after each answer, with
one answer more, until it needs no further one.
-/

namespace InstallerSetup.Main

open Storage (Fault)

/-- The fault of an error code, which the system may report with a minus sign. -/
def faultOfCode (code : UInt32) : Fault := .ofCode (min code.toNat (-code).toNat)

def fault : IO.Error → Fault
  | .interrupted _ code _ | .noFileOrDirectory _ code _ | .alreadyExists _ code _
  | .invalidArgument _ code _ | .permissionDenied _ code _ | .resourceExhausted _ code _
  | .inappropriateType _ code _ | .noSuchThing _ code _ | .otherError code _
  | .resourceBusy code _ | .resourceVanished code _ | .unsupportedOperation code _
  | .hardwareFault code _ | .unsatisfiedConstraints code _ | .illegalOperation code _
  | .protocolError code _ | .timeExpired code _ => faultOfCode code
  | error => ⟨.other, toString error⟩

def readText (path : String) : IO (Except Fault String) := do
  try
    let bytes ← IO.FS.readBinFile path
    match Text.decode? bytes.toList with
    | .ok text => return .ok text
    | .error _ => return .error (Storage.Directory.fault .invalidData)
  catch error => return .error (fault error)

def moveOrRemove (source destination : String) : IO Unit := do
  try IO.FS.rename source destination
  catch error =>
    IO.FS.removeFile source
    throw error

/-- Writes a file beside its path and then moves it there. -/
def replace (path : String) (content : List UInt8) : IO (Except Fault Unit) := do
  let scratch :=
    Storage.Directory.workingDirectory path ++ "/.tmp" ++ toString (← IO.rand 0 999999999)
  try
    IO.FS.writeBinFile scratch ⟨content.toArray⟩
    moveOrRemove scratch path
    return .ok ()
  catch error => return .error (fault error)

def display (text : String) : IO Unit := do
  let err ← IO.getStderr
  err.putStr text
  err.flush

def writeLog (o : Options) (log : Log) : IO Unit :=
  (log.shown o.debug).forM fun line => display (line.render ++ "\n")

/-- A line without its break; nothing if the input has ended. -/
def readLine? : IO (Option String) := do
  let line ← (← IO.getStdin).getLine
  if line.isEmpty then return none
  return some (line.dropEndWhile fun c => c = '\n' || c = '\r').toString

partial def readBlock? : IO (Option (List String)) := do
  match ← readLine? with
  | none => return none
  | some "" => return some []
  | some line => return (← readBlock?).map (line :: ·)

/-- Asks a question until what is typed makes sense; nothing if the input has ended. -/
partial def ask (info : Form.Field.Info) (question : Form.Question) :
    IO (Option Form.Answer) := do
  display (Terminal.questionText info question)
  let lines ←
    if Terminal.takesLines question then readBlock?
    else pure ((← readLine?).map fun line => [line])
  match lines with
  | none => return none
  | some lines =>
      match Terminal.answer? question lines with
      | some answer => return some answer
      | none => ask info question

/-- Holds the form on the terminal; the first `seen` moments have been shown. -/
partial def converse (o : Options) (m : Run.Material) (answers : List Form.Answer) (seen : Nat) :
    IO Form.Report := do
  let r := Form.run m.catalog Form.installer m.state answers
  let news := (r.moments.drop seen).filter fun moment => !Terminal.isUnanswered moment
  for moment in news do
    writeLog o moment.logLine?.toList
    display (Terminal.screenText moment)
  match Terminal.pending? r with
  | none => return r
  | some (info, question) =>
      match ← ask info question with
      | none => return r
      | some answer => converse o m (answers ++ [answer]) (r.moments.length - 1)

def hold (o : Options) (m : Run.Material) : IO Form.Report := do
  if ← (← IO.getStderr).isTty then converse o m [] 0
  else
    let r := Terminal.unattended Form.installer m.state m.catalog
    display (Terminal.screen r)
    writeLog o r.log
    return r

def printText (text : String) : IO (Except Run.Error Unit) := do
  try
    let out ← IO.getStdout
    out.putStr text
    out.flush
    return .ok ()
  catch error => return .error (.unprinted (fault error).message)

def conclude (o : Options) (m : Run.Material) (r : Form.Report) : IO (Except Run.Error Unit) := do
  let s := r.state.complete m.catalog
  writeLog o (r.state.completionLog m.catalog)
  let written ← replace o.configPath (Text.encode s.config.render)
  writeLog o (Run.writeLog o.configPath written)
  match written with
  | .error f => return .error (.failure (.unwritable o.configPath f))
  | .ok () => if s.flags.debug then printText s.config.render else return .ok ()

def run (o : Options) : IO (Except Run.Error Unit) := do
  let document ← readText o.configPath
  let catalogText ← readText o.packagePath
  let (log, prepared) := Run.prepare o document catalogText
  writeLog o log
  match prepared with
  | .error f => return .error (.failure f)
  | .ok m =>
      writeLog o [Run.startLine]
      let r ← hold o m
      match r.result with
      | .error f => return .error (.failure f)
      | .ok () => conclude o m r

end InstallerSetup.Main

open InstallerSetup in
def main (arguments : List String) : IO UInt32 := do
  match CommandLine.parse arguments with
  | .error stop =>
      let e := Program.ofStop CommandLine.programName stop ()
      IO.print e.printed
      Main.display e.screen
      return e.exitCode.toUInt32
  | .ok o =>
      let result ← Main.run o
      match result with
      | .ok () => Main.writeLog o [Run.endLine]
      | .error _ => Main.writeLog o (Program.errorLog result)
      return (Program.exitCode result).toUInt32
