import InstallerSetup.Yaml.Cursor
import InstallerSetup.Yaml.Fault
import InstallerSetup.Yaml.Token

/-!
# Anchors, tags and directives

The parts of a text that name something: anchors and aliases, the tags of nodes, and the directives
in front of a document. Tags are read as bytes, because they may spell bytes by their codes.
-/

namespace InstallerSetup.Yaml.Property

def asciiBytes (cs : List Char) : List UInt8 := cs.map fun c => UInt8.ofNat c.toNat

def endsAnchor (following : Option Char) : Bool :=
  endsWord following ||
    match following with
    | some c =>
        c == '?' || c == ':' || c == ',' || c == ']' || c == '\x7d' || c == '%' || c == '@' ||
          c == '\x60'
    | none => true

def anchor (activity : Activity) (c : Cursor) : Except Fault (String × Cursor) :=
  let name := c.skip.takeWhile isWordChar
  let after := c.skip.skipWhile isWordChar
  if name.isEmpty || !endsAnchor after.peek then
    .error (.syntactic .missingAnchorName after.mark (some (activity, c.mark)))
  else .ok (String.ofList name, after)

inductive Place where
  | node
  | directive
  deriving DecidableEq

def Place.textActivity : Place → Activity
  | .node => .tagText
  | .directive => .tagDirectiveText

/-- Reads `!`, or a name between two `!`. -/
def tagHandle (place : Place) (start : Mark) (c : Cursor) : Except Fault (List Char × Cursor) :=
  if !c.startsWith '!' then
    let activity := match place with
      | .node => Activity.tag
      | .directive => Activity.tagDirectiveHandle
    .error (.syntactic .missingTagMark c.mark (some (activity, start)))
  else
    let name := c.skip.takeWhile isWordChar
    let after := c.skip.skipWhile isWordChar
    if after.startsWith '!' then .ok ('!' :: name ++ ['!'], after.skip)
    else if place = .directive ∧ name ≠ [] then
      .error (.syntactic .missingTagMark after.mark (some (.tagDirectiveHandleEnd, start)))
    else .ok ('!' :: name, after)

def octet? : List Char → Option UInt8
  | '%' :: a :: b :: _ =>
      match hexValue? a, hexValue? b with
      | some high, some low => some (UInt8.ofNat (16 * high + low))
      | _, _ => none
  | _ => none

def octetCount? (lead : UInt8) : Option Nat :=
  if lead < 0x80 then some 1
  else if 0xC0 ≤ lead && lead < 0xE0 then some 2
  else if 0xE0 ≤ lead && lead < 0xF0 then some 3
  else if 0xF0 ≤ lead && lead < 0xF8 then some 4
  else none

def trailingOctets (fail : Problem → Mark → Fault) :
    Nat → Cursor → List UInt8 → Except Fault (List UInt8 × Cursor)
  | 0, c, read => .ok (read, c)
  | count + 1, c, read =>
      match octet? c.rest with
      | none => .error (fail .missingTagOctet c.mark)
      | some byte =>
          if 0x80 ≤ byte && byte < 0xC0 then
            trailingOctets fail count (c.skipMany 3) (read ++ [byte])
          else .error (fail .badTrailingOctet c.mark)

def octets (fail : Problem → Mark → Fault) (c : Cursor) : Except Fault (List UInt8 × Cursor) :=
  match octet? c.rest with
  | none => .error (fail .missingTagOctet c.mark)
  | some byte =>
      match octetCount? byte with
      | none => .error (fail .badLeadingOctet c.mark)
      | some count => trailingOctets fail (count - 1) (c.skipMany 3) [byte]

/-- Whether a tag may hold a character; commas and square brackets only where `verbatim`. -/
def isTagChar (verbatim : Bool) (c : Char) : Bool :=
  isWordChar c || isTagPunctuation c || (verbatim && (c == ',' || c == '[' || c == ']'))

def tagChars (fail : Problem → Mark → Fault) (verbatim : Bool) :
    Nat → Cursor → List UInt8 → Except Fault (List UInt8 × Cursor)
  | 0, c, read => .ok (read, c)
  | fuel + 1, c, read =>
      match c.peek with
      | none => .ok (read, c)
      | some ch =>
          if ch == '%' then
            match octets fail c with
            | .error fault => .error fault
            | .ok (bytes, c) => tagChars fail verbatim fuel c (read ++ bytes)
          else if isTagChar verbatim ch then
            tagChars fail verbatim fuel c.skip (read ++ asciiBytes [ch])
          else .ok (read, c)

/-- Reads a tag that continues `head`; a tag without any character is refused. -/
def tagText (place : Place) (verbatim : Bool) (head : List Char) (start : Mark) (c : Cursor) :
    Except Fault (List UInt8 × Cursor) :=
  let fail (problem : Problem) (mark : Mark) : Fault :=
    .syntactic problem mark (some (place.textActivity, start))
  match tagChars fail verbatim c.rest.length c [] with
  | .error fault => .error fault
  | .ok (bytes, after) =>
      if head.isEmpty && after.rest.length == c.rest.length then
        .error (fail .missingTagText after.mark)
      else .ok (asciiBytes (head.drop 1) ++ bytes, after)

/-- Reads the tag at `c` as a handle and a suffix; a verbatim tag has an empty handle. -/
def tag (inFlow : Bool) (c : Cursor) : Except Fault (List UInt8 × List UInt8 × Cursor) := do
  let start := c.mark
  let fail (problem : Problem) (mark : Mark) : Fault :=
    .syntactic problem mark (some (.tag, start))
  let (handle, suffix, after) ←
    if c.peekAt 1 == some '<' then do
      let (suffix, after) ← tagText .node true [] start (c.skipMany 2)
      if !after.startsWith '>' then throw (fail .missingTagClose after.mark)
      pure ([], suffix, after.skip)
    else do
      let (handle, after) ← tagHandle .node start c
      if handle.length ≥ 2 && handle.getLast? == some '!' then
        let (suffix, after) ← tagText .node false [] start after
        pure (asciiBytes handle, suffix, after)
      else
        let (suffix, after) ← tagText .node false handle start after
        if suffix.isEmpty then pure ([], asciiBytes ['!'], after)
        else pure (asciiBytes ['!'], suffix, after)
  if !(inFlow && after.startsWith ',') && !endsWord after.peek then
    throw (fail .missingTagEnd after.mark)
  return (handle, suffix, after)

/-- Reads a number of at most nine digits in a version. -/
def versionNumber (start : Mark) (c : Cursor) : Except Fault (Nat × Cursor) :=
  let digits := c.takeWhile Char.isDigit
  let fail (problem : Problem) (mark : Mark) : Except Fault (Nat × Cursor) :=
    .error (.syntactic problem mark (some (.versionDirective, start)))
  if 9 < digits.length then fail .longVersionNumber (c.mark.advance 9)
  else if digits.isEmpty then fail .missingVersionNumber c.mark
  else
    .ok (digits.foldl (fun n d => 10 * n + (d.toNat - '0'.toNat)) 0, c.skipWhile Char.isDigit)

def directive (c : Cursor) : Except Fault (Token.Kind × Cursor) := do
  let start := c.mark
  let fail (problem : Problem) (mark : Mark) : Fault :=
    .syntactic problem mark (some (.directive, start))
  let name := c.skip.takeWhile isWordChar
  let c := c.skip.skipWhile isWordChar
  if name.isEmpty then throw (fail .missingDirectiveName c.mark)
  if !endsWord c.peek then throw (fail .badDirectiveName c.mark)
  let (kind, c) ←
    if String.ofList name = "YAML" then do
      let (major, c) ← versionNumber start (c.skipWhile isBlank)
      if !c.startsWith '.' then
        throw (.syntactic .missingVersionPoint c.mark (some (.versionDirective, start)))
      let (minor, c) ← versionNumber start c.skip
      pure (Token.Kind.versionDirective major minor, c)
    else if String.ofList name = "TAG" then do
      let (handle, c) ← tagHandle .directive start (c.skipWhile isBlank)
      if !(c.peek.any isBlank) then
        throw (.syntactic .missingTagBlank c.mark (some (.tagDirective, start)))
      let (expansion, c) ← tagText .directive true [] start (c.skipWhile isBlank)
      if !endsWord c.peek then
        throw (.syntactic .missingTagEnd c.mark (some (.tagDirective, start)))
      pure (Token.Kind.tagDirective (asciiBytes handle) expansion, c)
    else throw (fail .unknownDirective c.mark)
  let c := c.skipWhile isBlank
  let c := if c.startsWith '#' then c.skipLine else c
  if c.peek.any fun ch => !isBreak ch then throw (fail .badDirectiveEnd c.mark)
  return (kind, c.skipBreak)

end InstallerSetup.Yaml.Property
