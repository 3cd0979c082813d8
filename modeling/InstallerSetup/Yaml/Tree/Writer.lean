import InstallerSetup.Yaml.Character
import InstallerSetup.Yaml.Plain

/-!
# Writing a tree

`Tree.render` writes a tree in block style: two columns of indentation for each level, sequences
below a key at the column of the key, and empty collections as `[]` and `{}`. A text is plain where
it reads back as itself, and quoted or a literal block otherwise.
-/

namespace InstallerSetup.Yaml

namespace ScalarText

inductive Style where
  | plain
  | singleQuoted
  | doubleQuoted
  | literal
  deriving DecidableEq, Repr

def isWritable (c : Char) : Bool :=
  let n := c.toNat
  n == 0x0A || (0x20 ≤ n && n ≤ 0x7E) || (0xA0 ≤ n && n ≤ 0xD7FF) ||
    (0xE000 ≤ n && n ≤ 0xFFFD && n != 0xFEFF) || 0x10000 ≤ n

def hasAdjacent (p q : Char → Bool) : List Char → Bool
  | a :: b :: rest => (p a && q b) || hasAdjacent p q (b :: rest)
  | _ => false

def isSpace (c : Char) : Bool := c == ' '

def hasIndicatorAfter : Char → List Char → Bool
  | _, [] => false
  | before, c :: rest =>
      (c == ':' && endsWord rest.head?) || (c == '#' && endsWord (some before)) ||
        hasIndicatorAfter c rest

/-- Whether a plain scalar could not be told from structure. -/
def hasIndicator : List Char → Bool
  | [] => false
  | c :: rest =>
      let cs := c :: rest
      cs.take 3 == ['-', '-', '-'] || cs.take 3 == ['.', '.', '.'] || isIndicator c ||
        ((c == '?' || c == ':' || c == '-') && endsWord rest.head?) || hasIndicatorAfter c rest

def needsEscape (cs : List Char) : Bool :=
  cs.any (fun c => !isWritable c) || hasAdjacent isSpace isBreak cs

def hasLooseEnd (cs : List Char) : Bool :=
  let loose (c : Option Char) : Bool := c.any fun c => isSpace c || isBreak c
  loose cs.head? || loose cs.getLast?

def allowsPlain (cs : List Char) : Bool :=
  !(cs.any isBreak || hasLooseEnd cs || needsEscape cs || hasIndicator cs)

def allowsSingleQuotes (cs : List Char) : Bool :=
  !(needsEscape cs || hasAdjacent isBreak isSpace cs)

def allowsLiteral (cs : List Char) : Bool :=
  !(needsEscape cs || cs.getLast?.any isSpace)

/-- Whether a plain scalar with this text would mean something else. -/
def isMisread (text : String) : Bool :=
  match Plain.meaning text with
  | .tree (.string _) => Plain.isZeroPadded text.toList
  | _ => true

/-- The style of a text; a key on the line of its colon is never a block. -/
def style (isKey : Bool) (text : String) : Style :=
  let cs := text.toList
  if cs.contains '\n' then
    if allowsLiteral cs && !isKey then .literal else .doubleQuoted
  else if isMisread text || !allowsPlain cs then
    if allowsSingleQuotes cs then .singleQuoted else .doubleQuoted
  else .plain

def spaces (n : Nat) : String := String.ofList (List.replicate n ' ')

/-- Indents what follows a line break by `indent` columns; empty lines stay empty. -/
def indentLines (indent : Nat) : Bool → List Char → List Char
  | _, [] => []
  | atStart, c :: rest =>
      if isBreak c then c :: indentLines indent true rest
      else
        let pad := if atStart then List.replicate indent ' ' else []
        pad ++ c :: indentLines indent false rest

def singleQuoted (indent : Nat) (cs : List Char) : String :=
  let doubled := cs.flatMap fun c => if c == '\x27' then [c, c] else [c]
  let tail := if cs.getLast?.any isBreak then spaces indent else ""
  "'" ++ String.ofList (indentLines indent false doubled) ++ tail ++ "'"

def hexDigits (width n : Nat) : List Char :=
  let digits := (Nat.toDigits 16 n).map Char.toUpper
  List.replicate (width - digits.length) '0' ++ digits

def escapeChar (c : Char) : List Char :=
  let n := c.toNat
  let short? : Option Char :=
    if n = 0 then some '0'
    else if n = 7 then some 'a'
    else if n = 8 then some 'b'
    else if n = 9 then some 't'
    else if n = 10 then some 'n'
    else if n = 11 then some 'v'
    else if n = 12 then some 'f'
    else if n = 13 then some 'r'
    else if n = 27 then some 'e'
    else if n = 34 then some '\x22'
    else if n = 92 then some '\\'
    else if n = 0x85 then some 'N'
    else if n = 0xA0 then some '_'
    else if n = 0x2028 then some 'L'
    else if n = 0x2029 then some 'P'
    else none
  match short? with
  | some letter => ['\\', letter]
  | none =>
      if n ≤ 0xFF then '\\' :: 'x' :: hexDigits 2 n
      else if n ≤ 0xFFFF then '\\' :: 'u' :: hexDigits 4 n
      else '\\' :: 'U' :: hexDigits 8 n

def doubleQuoted (cs : List Char) : String :=
  let escaped := cs.flatMap fun c =>
    if !isWritable c || isBreak c || c == '\x22' || c == '\\' then escapeChar c else [c]
  "\"" ++ String.ofList escaped ++ "\""

/-- What the header of a literal block says about its first and its last characters. -/
def literalHints (cs : List Char) : String :=
  let indentation := if cs.head?.any fun c => isSpace c || isBreak c then "2" else ""
  let chomping :=
    match cs.reverse with
    | [] => "-"
    | last :: before =>
        if !isBreak last then "-"
        else if before.isEmpty || before.head?.any isBreak then "+"
        else ""
  indentation ++ chomping

def literal (indent : Nat) (cs : List Char) : String :=
  "|" ++ literalHints cs ++ "\n" ++ String.ofList (indentLines indent true cs)

/-- A text in its style, with what follows a line break indented by `indent` columns. -/
def render (indent : Nat) (isKey : Bool) (text : String) : String :=
  match style isKey text with
  | .plain => text
  | .singleQuoted => singleQuoted indent text.toList
  | .doubleQuoted => doubleQuoted text.toList
  | .literal => literal indent text.toList

def renderLine (indent : Nat) (text : String) : String :=
  let written := render indent false text
  if style false text = .literal ∧ text.toList.getLast?.any isBreak then written
  else written ++ "\n"

end ScalarText

namespace Tree

open ScalarText (spaces)

def isSimpleKey : Tree → Bool
  | .null | .bool _ | .int _ | .float _ => true
  | .string text => !text.toList.any isBreak && text.utf8ByteSize ≤ 128
  | .sequence items => items.isEmpty
  | .mapping entries => entries.isEmpty
  | .tagged _ value => value.isSimpleKey

def keyText (indent : Nat) : Tree → String
  | .null => "null"
  | .bool value => boolText value
  | .int value => intText value
  | .float value => floatText value
  | .string text => ScalarText.render indent true text
  | .sequence _ => "[]"
  | .mapping _ => "\x7b\x7d"
  | .tagged tag value => "!" ++ bareTag tag ++ " " ++ value.keyText indent

inductive Place where
  /-- The line has been filled up to the column of the node. -/
  | column
  /-- The line ends with a key or a tag. -/
  | afterName
  deriving DecidableEq

def Place.gap : Place → String
  | column => ""
  | afterName => " "

def Place.lineStart (indent : Nat) : Place → String
  | column => ""
  | afterName => "\n" ++ spaces indent

mutual

/--
A node with the end of its last line. A sequence stands at column `outer` and everything else at
column `inner`.
-/
def nodeText (place : Place) (outer inner : Nat) : Tree → String
  | .null => place.gap ++ "null\n"
  | .bool value => place.gap ++ boolText value ++ "\n"
  | .int value => place.gap ++ intText value ++ "\n"
  | .float value => place.gap ++ floatText value ++ "\n"
  | .string text => place.gap ++ ScalarText.renderLine inner text
  | .sequence items =>
      if items.isEmpty then place.gap ++ "[]\n"
      else place.lineStart outer ++ itemsText outer true items
  | .mapping entries =>
      if entries.isEmpty then place.gap ++ "\x7b\x7d\n"
      else place.lineStart inner ++ entriesText inner true entries
  | .tagged tag value => place.gap ++ "!" ++ bareTag tag ++ nodeText .afterName outer inner value

def itemsText (indent : Nat) (first : Bool) : List Tree → String
  | [] => ""
  | item :: rest =>
      (if first then "" else spaces indent) ++ "- " ++
        nodeText .column (indent + 2) (indent + 2) item ++ itemsText indent false rest

def entriesText (indent : Nat) (first : Bool) : List (Tree × Tree) → String
  | [] => ""
  | (key, value) :: rest =>
      let entry :=
        if key.isSimpleKey then
          key.keyText (indent + 2) ++ ":" ++ nodeText .afterName indent (indent + 2) value
        else
          "? " ++ nodeText .column (indent + 2) (indent + 2) key ++ spaces indent ++ ": " ++
            nodeText .column (indent + 2) (indent + 2) value
      (if first then "" else spaces indent) ++ entry ++ entriesText indent false rest

end

def render : Tree → String
  | .string text => ScalarText.renderLine 2 text
  | tree => nodeText .column 0 0 tree

end Tree

end InstallerSetup.Yaml
