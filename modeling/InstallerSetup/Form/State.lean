import InstallerSetup.Config.Basic

/-!
# The state of a form

What a form reads and writes: the document, the switches, and scratch values that reach the document
only after the form is done.
-/

namespace InstallerSetup

inductive Form.Mode where
  /-- Packages are picked, and all their applications are enabled. -/
  | simple
  /-- Applications are picked one by one. -/
  | advanced
  /-- The list of the document is kept. -/
  | skip
  deriving DecidableEq, Repr

namespace Form.Mode

def all : List Mode := [simple, advanced, skip]

def name : Mode → String
  | simple => "simple"
  | advanced => "advanced"
  | skip => "skip"

def title : Mode → String
  | simple => "Simple"
  | advanced => "Advanced"
  | skip => "Skip"

def ofName? (name : String) : Option Mode := all.find? fun m => m.name == name

end Form.Mode

/-- The switches of a run, and the answers of the gates in front of the optional sections. -/
structure Form.Flags where
  debug : Bool
  packagePath : String
  configPath : String
  /-- Shows every optional section without asking. -/
  expertMode : Bool
  configureAwsExpert : Bool
  configureOnpremExpert : Bool
  configureProxy : Bool
  configureCert : Bool
  configureSre : Bool
  configureSmtp : Bool
  deriving DecidableEq, Repr, Inhabited

/-- Values that are collected but not written as they are. -/
structure Form.Scratch where
  /-- The jump hosts, separated by commas. -/
  jumpHostWhitelist : String
  /-- The packages picked in the simple mode. -/
  enabledSimple : List String
  /-- The applications picked in the advanced mode. -/
  enabledAdvanced : List String
  mode : Form.Mode
  deriving DecidableEq, Repr

structure Form.State where
  config : Config
  flags : Form.Flags
  scratch : Form.Scratch

namespace Form

def Flags.initial : Flags :=
  ⟨false, "", "", false, false, false, false, false, false, false⟩

def State.start (config : Config) (flags : Flags) : State :=
  ⟨config, flags, ⟨",".intercalate config.aws.jumpHostWhitelist, [], [], .simple⟩⟩

namespace State

def mapGlobal (s : State) (f : Config.Global → Config.Global) : State :=
  { s with config := { s.config with global := f s.config.global } }

def mapAws (s : State) (f : Config.Aws → Config.Aws) : State :=
  { s with config := { s.config with aws := f s.config.aws } }

def mapOnprem (s : State) (f : Config.Onprem → Config.Onprem) : State :=
  { s with config := { s.config with onprem := f s.config.onprem } }

def mapProxy (s : State) (f : Config.Proxy → Config.Proxy) : State :=
  { s with config := { s.config with proxy := f s.config.proxy } }

def mapCert (s : State) (f : Config.Cert → Config.Cert) : State :=
  { s with config := { s.config with cert := f s.config.cert } }

def mapSre (s : State) (f : Config.Sre → Config.Sre) : State :=
  { s with config := { s.config with sre := f s.config.sre } }

def mapSmtp (s : State) (f : Config.Smtp → Config.Smtp) : State :=
  { s with config := { s.config with smtp := f s.config.smtp } }

def mapOrch (s : State) (f : Config.Orch → Config.Orch) : State :=
  { s with config := { s.config with orch := f s.config.orch } }

def mapFlags (s : State) (f : Flags → Flags) : State := { s with flags := f s.flags }

def mapScratch (s : State) (f : Scratch → Scratch) : State := { s with scratch := f s.scratch }

end State

end Form

end InstallerSetup
