/-!
# Positions in a text

A `Mark` counts the characters, the line breaks and the characters since the last line break before
a place in a text. Messages count lines and columns from one and leave out the first place.
-/

namespace InstallerSetup.Yaml

structure Mark where
  offset : Nat
  line : Nat
  column : Nat
  deriving DecidableEq, Repr, Inhabited

namespace Mark

def origin : Mark := ⟨0, 0, 0⟩

/-- Past one character that is not a line break. -/
def next (m : Mark) : Mark := ⟨m.offset + 1, m.line, m.column + 1⟩

def advance (m : Mark) (count : Nat) : Mark := ⟨m.offset + count, m.line, m.column + count⟩

def nextLine (m : Mark) (count : Nat) : Mark := ⟨m.offset + count, m.line + 1, 0⟩

def sameSpot (m n : Mark) : Bool := m.line == n.line && m.column == n.column

def atOrigin (m : Mark) : Bool := m.sameSpot origin

def describe (m : Mark) : String := s!"line {m.line + 1} column {m.column + 1}"

/-- What a message appends about a place: nothing for the first one. -/
def suffix (m : Mark) : String := if m.atOrigin then "" else " at " ++ m.describe

end Mark

end InstallerSetup.Yaml
