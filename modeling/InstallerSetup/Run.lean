import InstallerSetup.Catalog.Text
import InstallerSetup.CommandLine
import InstallerSetup.Config.Check
import InstallerSetup.Config.Text
import InstallerSetup.Form.Completion
import InstallerSetup.Form.Installer
import InstallerSetup.Form.Run
import InstallerSetup.Storage.Basic
import InstallerSetup.Text.Utf8

/-!
# Runs

A run loads the document and the catalog, takes the installer form to its end, completes it, and
writes the document back. Everything that can be wrong with the files is found before the first
question, and nothing is written unless the form is done.
-/

namespace InstallerSetup

namespace Run

open Storage (Fault)

/-- The document under a path; a missing one counts as one that says nothing. -/
def loadConfig (path : String) (content : Except Fault String) : Log × Except Failure Config :=
  match content with
  | .error fault =>
      if fault.kind = .notFound then
        ([Log.infoLine "Config file does not exist. Starting fresh..."], .ok Config.initial)
      else ([], .error (.documentUnreadable path fault))
  | .ok text =>
      match Config.parse text with
      | (log, .error failure) => (log, .error failure)
      | (log, .ok config) => (log ++ [Log.debugLine ("Loaded config file " ++ path)], .ok config)

def loadCatalog (path : String) (content : Except Fault String) : Log × Except Failure Catalog :=
  match content with
  | .error fault => ([], .error (.catalogUnreadable path fault))
  | .ok text =>
      match Catalog.ofText text with
      | .error failure => ([], .error failure)
      | .ok catalog =>
          ([Log.debugLine
              ("Loaded " ++ toString catalog.packages.size ++ " packages with " ++
                toString catalog.appIds.length ++ " apps from " ++ path)],
            .ok catalog)

def writeLog {α : Type} (path : String) : Except Fault α → Log
  | .ok _ => [Log.infoLine ("Config file written to " ++ path)]
  | .error _ => []

def saveConfig {σ : Type} [Storage σ] (store : σ) (path : String) (config : Config) :
    Log × Except Failure σ :=
  let written := Storage.replace store path (Text.encode config.render)
  (writeLog path written, written.mapError (.unwritable path))

/-- A complaint about a document that says something but breaks a rule. -/
def configWarning (config : Config) : Log :=
  if config.isInitial then []
  else
    match config.check with
    | .ok () => []
    | .error failure =>
        [Log.warnLine ("Existing configuration needs attention: " ++ failure.message)]

def catalogWarning (path : String) (catalog : Catalog) : Log :=
  if catalog.isEmpty then [Log.warnLine ("Package catalog " ++ path ++ " is empty")] else []

structure Material where
  state : Form.State
  catalog : Catalog

def prepare (o : Options) (document catalogText : Except Fault String) :
    Log × Except Failure Material :=
  match loadConfig o.configPath document with
  | (log, .error failure) => (log, .error failure)
  | (log, .ok config) =>
      let log := log ++ configWarning config
      match loadCatalog o.packagePath catalogText with
      | (more, .error failure) => (log ++ more, .error failure)
      | (more, .ok catalog) =>
          (log ++ more ++ catalogWarning o.packagePath catalog,
            .ok ⟨Form.State.start config o.flags, catalog⟩)

/-- Where a document is printed to; either step may fail. -/
structure Sink where
  writeFault : Option String
  flushFault : Option String
  deriving Repr

def Sink.reliable : Sink := ⟨none, none⟩

def Sink.print (sink : Sink) (text : String) : String × Option String :=
  match sink.writeFault with
  | some fault => ("", some fault)
  | none => (text, sink.flushFault)

inductive Error where
  | failure (failure : Failure)
  /-- The document was written but could not be printed. -/
  | unprinted (cause : String)
  deriving Repr

namespace Error

def message : Error → String
  | failure f => f.message
  | unprinted cause => "failed to print configuration: " ++ cause

def exitCode : Error → Nat
  | failure f => f.exitCode
  | unprinted _ => 1

end Error

/-- How a run ended and what it left behind. -/
structure Outcome (σ : Type) where
  store : σ
  log : Log
  /-- The course of the form, if it was reached. -/
  report : Option Form.Report
  printed : String
  result : Except Error Config

def startLine : Log.Line := Log.debugLine "Starting configuration form"

def endLine : Log.Line := Log.infoLine "Configuration complete"

/-- What is done once the form is done: completion, writing, and printing on demand. -/
def conclude {σ : Type} [Storage σ] (o : Options) (store : σ) (sink : Sink) (catalog : Catalog)
    (log : Log) (report : Form.Report) : Outcome σ :=
  let s := report.state.complete catalog
  let log := log ++ report.state.completionLog catalog
  match saveConfig store o.configPath s.config with
  | (more, .error failure) => ⟨store, log ++ more, some report, "", .error (.failure failure)⟩
  | (more, .ok store) =>
      let log := log ++ more
      let (printed, fault) := if s.flags.debug then sink.print s.config.render else ("", none)
      match fault with
      | some cause => ⟨store, log, some report, printed, .error (.unprinted cause)⟩
      | none => ⟨store, log ++ [endLine], some report, printed, .ok s.config⟩

/-- A run in which the form is held as the last argument says. -/
def runWith {σ : Type} [Storage σ] (o : Options) (store : σ) (sink : Sink)
    (hold : Form → Form.State → Catalog → Form.Report) : Outcome σ :=
  match prepare o (Storage.read store o.configPath) (Storage.read store o.packagePath) with
  | (log, .error failure) => ⟨store, log, none, "", .error (.failure failure)⟩
  | (log, .ok material) =>
      let report := hold Form.installer material.state material.catalog
      let log := log ++ [startLine] ++ report.log
      match report.result with
      | .error failure => ⟨store, log, some report, "", .error (.failure failure)⟩
      | .ok () => conclude o store sink material.catalog log report

def run {σ : Type} [Storage σ] (o : Options) (store : σ) (sink : Sink)
    (answers : List Form.Answer) : Outcome σ :=
  runWith o store sink fun form s catalog => Form.run catalog form s answers

end Run

end InstallerSetup
