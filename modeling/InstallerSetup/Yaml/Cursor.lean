import InstallerSetup.Yaml.Character
import InstallerSetup.Yaml.Mark

/-!
# Reading forward

A `Cursor` is the rest of a text together with the mark of its first character.
-/

namespace InstallerSetup.Yaml

structure Cursor where
  rest : List Char
  mark : Mark
  deriving DecidableEq, Repr

namespace Cursor

def ofString (s : String) : Cursor := ⟨s.toList, .origin⟩

def peek (c : Cursor) : Option Char := c.rest.head?

def peekAt (c : Cursor) (n : Nat) : Option Char := c.rest[n]?

def startsWith (c : Cursor) (ch : Char) : Bool := c.rest.head? == some ch

/-- Past one character that is not a line break. -/
def skip (c : Cursor) : Cursor := ⟨c.rest.tail, c.mark.next⟩

def skipMany (c : Cursor) (count : Nat) : Cursor := ⟨c.rest.drop count, c.mark.advance count⟩

/-- Past the characters in front that satisfy `p`; none of these may be a line break. -/
def skipWhile (c : Cursor) (p : Char → Bool) : Cursor :=
  let taken := c.rest.takeWhile p
  ⟨c.rest.dropWhile p, c.mark.advance taken.length⟩

def takeWhile (c : Cursor) (p : Char → Bool) : List Char := c.rest.takeWhile p

def skipBreak (c : Cursor) : Cursor :=
  match splitBreak? c.rest with
  | some (_, count, rest) => ⟨rest, c.mark.nextLine count⟩
  | none => c

def skipLine (c : Cursor) : Cursor := c.skipWhile fun ch => !isBreak ch

end Cursor

end InstallerSetup.Yaml
