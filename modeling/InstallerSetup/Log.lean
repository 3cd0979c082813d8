/-!
# The log

A run writes lines of four levels. Lines of the lowest level are shown on demand only.
-/

namespace InstallerSetup

inductive Log.Level where
  | debug
  | info
  | warn
  | error
  deriving DecidableEq, Repr

def Log.Level.name : Log.Level → String
  | debug => "DEBUG"
  | info => "INFO"
  | warn => "WARN"
  | error => "ERROR"

structure Log.Line where
  level : Log.Level
  text : String
  deriving DecidableEq, Repr

/-- Lines in the order in which they were written. -/
abbrev Log := List Log.Line

namespace Log

def Line.render (line : Line) : String := line.level.name ++ " " ++ line.text

def debugLine (text : String) : Line := ⟨.debug, text⟩

def infoLine (text : String) : Line := ⟨.info, text⟩

def warnLine (text : String) : Line := ⟨.warn, text⟩

def errorLine (text : String) : Line := ⟨.error, text⟩

def shown (debug : Bool) (log : Log) : Log := log.filter fun line => debug || line.level != .debug

end Log

end InstallerSetup
