/-!
# Character classes

The classes of characters on which the structure of a YAML text depends. `none` stands for the end
of the text where a class includes it.
-/

namespace InstallerSetup.Yaml

/-- Line breaks: the ASCII ones, next line, and the line and paragraph separators. -/
def isBreak (c : Char) : Bool :=
  c == '\n' || c == '\r' || c == '\u0085' || c == '\u2028' || c == '\u2029'

def isBlank (c : Char) : Bool := c == ' ' || c == '\t'

def endsWord : Option Char → Bool
  | none => true
  | some c => isBlank c || isBreak c

def isWordChar (c : Char) : Bool := c.isAlphanum || c == '_' || c == '-'

def isFlowIndicator (c : Char) : Bool :=
  c == ',' || c == '[' || c == ']' || c == '\x7b' || c == '\x7d'

/-- The characters that no plain scalar begins with, whatever follows. -/
def isIndicator (c : Char) : Bool :=
  isFlowIndicator c || c == '#' || c == '&' || c == '*' || c == '!' || c == '|' || c == '>' ||
    c == '\x27' || c == '\x22' || c == '%' || c == '@' || c == '\x60'

def isTagPunctuation (c : Char) : Bool :=
  c == ';' || c == '/' || c == '?' || c == ':' || c == '@' || c == '&' || c == '=' || c == '+' ||
    c == '$' || c == '.' || c == '%' || c == '!' || c == '~' || c == '*' || c == '\x27' ||
    c == '(' || c == ')'

def hexValue? (c : Char) : Option Nat :=
  if c.isDigit then some (c.toNat - '0'.toNat)
  else if 'a' ≤ c && c ≤ 'f' then some (c.toNat - 'a'.toNat + 10)
  else if 'A' ≤ c && c ≤ 'F' then some (c.toNat - 'A'.toNat + 10)
  else none

def isAllowed (c : Char) : Bool :=
  let n := c.toNat
  n == 9 || n == 10 || n == 13 || (0x20 ≤ n && n ≤ 0x7E) || n == 0x85 ||
    (0xA0 ≤ n && n ≤ 0xD7FF) || (0xE000 ≤ n && n ≤ 0xFFFD) || 0x10000 ≤ n

/-- The number of bytes before the first character that is not allowed, if there is one. -/
def firstForbidden? : List Char → Nat → Option Nat
  | [], _ => none
  | c :: rest, offset =>
      if isAllowed c then firstForbidden? rest (offset + c.utf8Size) else some offset

/--
The line break in front of a text: what it is kept as, the number of its characters, and the text
after it. The ASCII breaks and next line are kept as a line feed.
-/
def splitBreak? : List Char → Option (Char × Nat × List Char)
  | '\r' :: '\n' :: rest => some ('\n', 2, rest)
  | c :: rest =>
      if c == '\n' || c == '\r' || c == '\u0085' then some ('\n', 1, rest)
      else if c == '\u2028' || c == '\u2029' then some (c, 1, rest)
      else none
  | [] => none

theorem length_of_splitBreak? {cs rest : List Char} {c : Char} {count : Nat}
    (h : splitBreak? cs = some (c, count, rest)) : rest.length < cs.length := by
  unfold splitBreak? at h
  split at h
  · cases h
    simp only [List.length_cons]
    omega
  · split at h
    · cases h
      simp
    · split at h
      · cases h
        simp
      · cases h
  · cases h

/-- Whether a text begins with a document mark: `---` or `...` before the end of a word. -/
def startsWithDocumentMark : List Char → Bool
  | '-' :: '-' :: '-' :: rest => endsWord rest.head?
  | '.' :: '.' :: '.' :: rest => endsWord rest.head?
  | _ => false

end InstallerSetup.Yaml
