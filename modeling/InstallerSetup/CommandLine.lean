import InstallerSetup.Form.State
import InstallerSetup.Storage.Basic

/-!
# The command line

Options take a value, switches do not. A value stands behind its option or in the next argument, and
short names can be run together. An option whose value may still come is settled when the next
option or switch is met, so another stray argument is reported before a missing value.
-/

namespace InstallerSetup

/-- What a run is asked to do. -/
structure Options where
  configPath : String
  packagePath : String
  /-- Shows every optional section without asking. -/
  expert : Bool
  /-- Shows more of the log, and the document in the end. -/
  debug : Bool
  deriving DecidableEq, Repr

def Options.flags (o : Options) : Form.Flags :=
  { Form.Flags.initial with
    debug := o.debug
    packagePath := o.packagePath
    configPath := o.configPath
    expertMode := o.expert }

namespace CommandLine

inductive ValueOption where
  | config
  | package
  deriving DecidableEq, Repr

inductive Switch where
  | expert
  | debug
  | help
  | version
  deriving DecidableEq, Repr

def ValueOption.name : ValueOption → String
  | config => "--config"
  | package => "--package"

def ValueOption.usage (o : ValueOption) : String := o.name ++ " <PATH>"

def ValueOption.fallback : ValueOption → String
  | config => "configs.yaml"
  | package => "packages.yaml"

def Switch.name : Switch → String
  | expert => "--expert"
  | debug => "--debug"
  | help => "--help"
  | version => "--version"

inductive Key where
  | option (o : ValueOption)
  | switch (s : Switch)
  deriving DecidableEq, Repr

namespace Key

def ofLong? : String → Option Key
  | "config" => some (option .config)
  | "package" => some (option .package)
  | "expert" => some (switch .expert)
  | "debug" => some (switch .debug)
  | "help" => some (switch .help)
  | "version" => some (switch .version)
  | _ => none

def ofShort? : Char → Option Key
  | 'c' => some (option .config)
  | 'p' => some (option .package)
  | 'e' => some (switch .expert)
  | 'd' => some (switch .debug)
  | 'h' => some (switch .help)
  | 'V' => some (switch .version)
  | _ => none

end Key

/-- Why there is nothing to run. -/
inductive Stop where
  | help
  | version
  | valueMissing (o : ValueOption)
  /-- An option or switch, by its usage, was given twice. -/
  | repeated (usage : String)
  | unexpectedValue (value : String) (s : Switch)
  | unexpected (argument : String)
  deriving DecidableEq, Repr

/-- The last name of a path, unless that is a step up. -/
def lastName? (path : String) : Option String :=
  match (Storage.components path).getLast? with
  | some name => if name = ".." || name = "." || name = "/" then none else some name
  | none => none

def programName : String := "orch-config"

def versionText : String := programName ++ " 0.1.0\n"

def helpText (startedAs : String) : String :=
  "An interactive tool to build EMF config\n\nUsage: " ++
    (lastName? startedAs).getD programName ++ " [OPTIONS]\n\nOptions:\n" ++
    "  -c, --config <PATH>   Path to the configuration document [default: configs.yaml]\n" ++
    "  -p, --package <PATH>  Path to the package catalog [default: packages.yaml]\n" ++
    "  -e, --expert          Show every optional section without asking first\n" ++
    "  -d, --debug           Enable debug logging and print the final document to stdout\n" ++
    "  -h, --help            Print help\n" ++
    "  -V, --version         Print version\n"

namespace Stop

def message (startedAs : String) : Stop → String
  | help => helpText startedAs
  | version => versionText
  | valueMissing o => "error: a value is required for '" ++ o.usage ++ "' but none was supplied"
  | repeated usage => "error: the argument '" ++ usage ++ "' cannot be used multiple times"
  | unexpectedValue value s =>
      "error: unexpected value '" ++ value ++ "' for '" ++ s.name ++
        "' found; no more were expected"
  | unexpected argument => "error: unexpected argument '" ++ argument ++ "' found"

def isError : Stop → Bool
  | help | version => false
  | _ => true

/-- The exit code of the program; asking for help counts as a failure of its own. -/
def exitCode : Stop → Nat
  | help => 1
  | version => 0
  | _ => 2

end Stop

/-- What has been given so far. -/
structure Given where
  config : Option String
  package : Option String
  expert : Bool
  debug : Bool
  /-- The last option, and its value if that has come. -/
  pending : Option (ValueOption × Option String)
  deriving DecidableEq, Repr

namespace Given

def empty : Given := ⟨none, none, false, false, none⟩

def value? (g : Given) : ValueOption → Option String
  | .config => g.config
  | .package => g.package

def assign (g : Given) (o : ValueOption) (value : String) : Except Stop Given :=
  if (g.value? o).isSome then .error (.repeated o.usage)
  else if value.isEmpty then .error (.valueMissing o)
  else
    match o with
    | .config => .ok { g with config := some value }
    | .package => .ok { g with package := some value }

def settle (g : Given) : Except Stop Given :=
  match g.pending with
  | none => .ok g
  | some (o, none) => .error (.valueMissing o)
  | some (o, some value) => { g with pending := none }.assign o value

def option (g : Given) (o : ValueOption) (value : Option String) : Except Stop Given := do
  let g ← g.settle
  match value with
  | some value => g.assign o value
  | none => return { g with pending := some (o, none) }

def switch (g : Given) (s : Switch) : Except Stop Given := do
  let g ← g.settle
  match s with
  | .help => throw .help
  | .version => throw .version
  | .expert => if g.expert then throw (.repeated s.name) else return { g with expert := true }
  | .debug => if g.debug then throw (.repeated s.name) else return { g with debug := true }

def options (g : Given) : Options where
  configPath := g.config.getD ValueOption.config.fallback
  packagePath := g.package.getD ValueOption.package.fallback
  expert := g.expert
  debug := g.debug

end Given

/-- What stands behind a short option in its own argument, without an equals sign in front. -/
def attached? : List Char → Option String
  | [] => none
  | '=' :: value => some (String.ofList value)
  | value => some (String.ofList value)

def readShort : List Char → Given → Except Stop Given
  | [], g => .ok g
  | c :: rest, g =>
      match Key.ofShort? c with
      | none => .error (.unexpected (String.ofList ['-', c]))
      | some (.option o) => g.option o (attached? rest)
      | some (.switch s) =>
          match g.switch s with
          | .error stop => .error stop
          | .ok g => readShort rest g

def splitLong (cs : List Char) : String × Option String :=
  (String.ofList (cs.takeWhile (· != '=')),
    match cs.dropWhile (· != '=') with
    | [] => none
    | _ :: value => some (String.ofList value))

def readLong (cs : List Char) (g : Given) : Except Stop Given :=
  let (name, value) := splitLong cs
  match Key.ofLong? name, value with
  | none, _ => .error (.unexpected ("--" ++ name))
  | some (.option o), value => g.option o value
  | some (.switch s), none => g.switch s
  | some (.switch s), some value => .error (.unexpectedValue value s)

/-- Reads an argument that is no option: the value that the last option waits for, or nothing. -/
def readValue (argument : String) (g : Given) : Except Stop Given :=
  match g.pending with
  | some (o, none) => .ok { g with pending := some (o, some argument) }
  | _ => .error (.unexpected argument)

def read : List String → Given → Except Stop Given
  | [], g => g.settle
  | argument :: rest, g =>
      match argument.toList with
      | ['-', '-'] =>
          match rest with
          | [] => g.settle
          | stray :: _ => .error (.unexpected stray)
      | '-' :: '-' :: cs =>
          match readLong cs g with
          | .error stop => .error stop
          | .ok g => read rest g
      | '-' :: c :: cs =>
          match readShort (c :: cs) g with
          | .error stop => .error stop
          | .ok g => read rest g
      | _ =>
          match readValue argument g with
          | .error stop => .error stop
          | .ok g => read rest g

def parse (arguments : List String) : Except Stop Options :=
  (read arguments .empty).map Given.options

end CommandLine

end InstallerSetup
