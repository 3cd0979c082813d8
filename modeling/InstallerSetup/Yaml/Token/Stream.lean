import InstallerSetup.Yaml.Token.Property
import InstallerSetup.Yaml.Token.Scalar

/-!
# The tokens of a text

`TokenStream.ofText` cuts a text into tokens. A key without an indicator of its own is recognised
only at the colon behind it: until then its first token is a `KeyCandidate`, and no token from that
one on is released. So a fault hides the tokens that still wait for a colon; a `TokenStream` holds
the released tokens and the fault that ended them.
-/

namespace InstallerSetup.Yaml

/-- A token that is the start of a key if a colon follows. -/
structure KeyCandidate where
  /-- Whether nothing but a key may stand there. -/
  required : Bool
  /-- The number of tokens before it. -/
  position : Nat
  mark : Mark
  deriving Repr

structure Lexer where
  cursor : Cursor
  /-- The tokens so far. -/
  tokens : Array Token
  /-- The number of flow collections around the cursor. -/
  depth : Nat
  /-- The column of the innermost block collection; `-1` outside of all. -/
  indent : Int
  /-- The columns of the block collections around that one. -/
  outerIndents : List Int
  /-- Whether a key may begin at the cursor. -/
  keyAllowed : Bool
  /-- The candidate of each flow level, the innermost first. -/
  candidates : List (Option KeyCandidate)

/-- Released tokens and what ended them; without a fault the last token is `streamEnd`. -/
structure TokenStream where
  tokens : List Token
  fault : Option Fault

namespace Lexer

/-- The state at the start of a text; a byte order mark there is passed over but takes a column. -/
def start (text : String) : Lexer :=
  let c := Cursor.ofString text
  let c := if c.startsWith '\ufeff' then c.skip else c
  ⟨c, #[⟨.streamStart, .origin, .origin⟩], 0, -1, [], true, [none]⟩

def mark (s : Lexer) : Mark := s.cursor.mark

def inFlow (s : Lexer) : Bool := 0 < s.depth

def push (s : Lexer) (kind : Token.Kind) (start stop : Mark) : Lexer :=
  { s with tokens := s.tokens.push ⟨kind, start, stop⟩ }

def pushIndicator (s : Lexer) (kind : Token.Kind) (length : Nat) : Lexer :=
  let cursor := s.cursor.skipMany length
  { s.push kind s.mark cursor.mark with cursor := cursor }

def missingColon (s : Lexer) (candidate : KeyCandidate) : Fault :=
  .syntactic .missingColon s.mark (some (.simpleKey, candidate.mark))

/-- Whether a candidate is out of reach: keys stay on one line and within 1024 characters. -/
def isStale (s : Lexer) (candidate : KeyCandidate) : Bool :=
  candidate.mark.line < s.mark.line || candidate.mark.offset + 1024 < s.mark.offset

def dropStale (s : Lexer) : Except Fault Lexer := do
  let candidates ← s.candidates.reverse.mapM fun
    | none => pure none
    | some candidate =>
        if s.isStale candidate then
          if candidate.required then throw (s.missingColon candidate) else pure none
        else pure (some candidate)
  return { s with candidates := candidates.reverse }

def dropCandidate (s : Lexer) : Except Fault Lexer :=
  match s.candidates with
  | some candidate :: rest =>
      if candidate.required then .error (s.missingColon candidate)
      else .ok { s with candidates := none :: rest }
  | _ => .ok s

/-- Makes the token to come a candidate, if a key may begin there. -/
def saveCandidate (s : Lexer) : Except Fault Lexer :=
  if s.keyAllowed then do
    let required := !s.inFlow && s.indent == (s.mark.column : Int)
    let candidate : KeyCandidate := ⟨required, s.tokens.size, s.mark⟩
    let s ← s.dropCandidate
    return { s with candidates := some candidate :: s.candidates.tail }
  else .ok s

def indentTo (s : Lexer) (column : Nat) (kind : Token.Kind) (mark : Mark) (position : Nat) :
    Lexer :=
  if !s.inFlow && s.indent < (column : Int) then
    { s with
      outerIndents := s.indent :: s.outerIndents
      indent := column
      tokens := s.tokens.insertIdxIfInBounds position ⟨kind, mark, mark⟩ }
  else s

def closeBlocks (column : Int) (mark : Mark) : Int → List Int → Array Token →
    Int × List Int × Array Token
  | indent, [], tokens => (indent, [], tokens)
  | indent, outer :: rest, tokens =>
      if column < indent then
        closeBlocks column mark outer rest (tokens.push ⟨.blockEnd, mark, mark⟩)
      else (indent, outer :: rest, tokens)

def unindentTo (s : Lexer) (column : Int) : Lexer :=
  if s.inFlow then s
  else
    let (indent, outer, tokens) := closeBlocks column s.mark s.indent s.outerIndents s.tokens
    { s with indent := indent, outerIndents := outer, tokens := tokens }

/--
Moves past blanks, comments and line breaks; the fuel bounds the number of lines. Where a key may
begin, a tab does not count as a blank.
-/
def skipToToken : Nat → Lexer → Lexer
  | 0, s => s
  | fuel + 1, s =>
      let tabs := s.inFlow || !s.keyAllowed
      let c := s.cursor.skipWhile fun ch => ch == ' ' || (tabs && ch == '\t')
      let c := if c.startsWith '#' then c.skipLine else c
      if c.peek.any isBreak then
        skipToToken fuel
          { s with cursor := c.skipBreak, keyAllowed := s.keyAllowed || !s.inFlow }
      else { s with cursor := c }

def atEnd (s : Lexer) : Except Fault Lexer := do
  let mark := s.mark
  let mark := if mark.column = 0 then mark else ⟨mark.offset, mark.line + 1, 0⟩
  let s := { s with cursor := ⟨[], mark⟩ }
  let s ← (s.unindentTo (-1)).dropCandidate
  return { s.push .streamEnd mark mark with keyAllowed := false }

def documentIndicator (s : Lexer) (kind : Token.Kind) : Except Fault Lexer := do
  let s ← (s.unindentTo (-1)).dropCandidate
  return { s.pushIndicator kind 3 with keyAllowed := false }

def directive (s : Lexer) : Except Fault Lexer := do
  let s ← (s.unindentTo (-1)).dropCandidate
  let (kind, cursor) ← Property.directive s.cursor
  return { s.push kind s.mark cursor.mark with cursor := cursor, keyAllowed := false }

def openFlow (s : Lexer) (kind : Token.Kind) : Except Fault Lexer := do
  let s ← s.saveCandidate
  return { s.pushIndicator kind 1 with
    candidates := none :: s.candidates, depth := s.depth + 1, keyAllowed := true }

def closeFlow (s : Lexer) (kind : Token.Kind) : Except Fault Lexer := do
  let s ← s.dropCandidate
  let s :=
    if s.inFlow then { s with candidates := s.candidates.tail, depth := s.depth - 1 } else s
  return { s.pushIndicator kind 1 with keyAllowed := false }

def flowEntry (s : Lexer) : Except Fault Lexer := do
  let s ← s.dropCandidate
  return { s.pushIndicator .flowEntry 1 with keyAllowed := true }

def blockEntry (s : Lexer) : Except Fault Lexer := do
  if !s.inFlow && !s.keyAllowed then
    throw (.syntactic .sequenceEntryNotAllowed s.mark none)
  let s := s.indentTo s.mark.column .blockSequenceStart s.mark s.tokens.size
  let s ← s.dropCandidate
  return { s.pushIndicator .blockEntry 1 with keyAllowed := true }

def explicitKey (s : Lexer) : Except Fault Lexer := do
  if !s.inFlow && !s.keyAllowed then
    throw (.syntactic .mappingKeyNotAllowed s.mark none)
  let s := s.indentTo s.mark.column .blockMappingStart s.mark s.tokens.size
  let s ← s.dropCandidate
  return { s.pushIndicator .key 1 with keyAllowed := !s.inFlow }

/-- A colon turns the candidate of its level into a key. -/
def value (s : Lexer) : Except Fault Lexer := do
  match s.candidates with
  | some candidate :: rest =>
      let key : Token := ⟨.key, candidate.mark, candidate.mark⟩
      let s := { s with tokens := s.tokens.insertIdxIfInBounds candidate.position key }
      let s := s.indentTo candidate.mark.column .blockMappingStart candidate.mark candidate.position
      return { s.pushIndicator .value 1 with candidates := none :: rest, keyAllowed := false }
  | _ =>
      if !s.inFlow && !s.keyAllowed then
        throw (.syntactic .mappingValueNotAllowed s.mark none)
      let s := s.indentTo s.mark.column .blockMappingStart s.mark s.tokens.size
      return { s.pushIndicator .value 1 with keyAllowed := !s.inFlow }

def anchor (s : Lexer) (activity : Activity) (kind : String → Token.Kind) :
    Except Fault Lexer := do
  let s ← s.saveCandidate
  let (name, cursor) ← Property.anchor activity s.cursor
  return { s.push (kind name) s.mark cursor.mark with cursor := cursor, keyAllowed := false }

def tag (s : Lexer) : Except Fault Lexer := do
  let s ← s.saveCandidate
  let (handle, suffix, cursor) ← Property.tag s.inFlow s.cursor
  return { s.push (.tag handle suffix) s.mark cursor.mark with
    cursor := cursor, keyAllowed := false }

def blockScalar (s : Lexer) (folds : Bool) : Except Fault Lexer := do
  let s ← s.dropCandidate
  let (text, cursor) ← Scalar.block folds s.indent s.mark s.cursor.skip
  return { s.push (.scalar text .block) s.mark cursor.mark with
    cursor := cursor, keyAllowed := true }

def quotedScalar (s : Lexer) (single : Bool) : Except Fault Lexer := do
  let s ← s.saveCandidate
  let c := s.cursor.skip
  let (text, cursor) ← Scalar.quotedText single s.mark c.rest c.mark .closed ""
  return { s.push (.scalar text .quoted) s.mark cursor.mark with
    cursor := cursor, keyAllowed := false }

def plainScalar (s : Lexer) : Except Fault Lexer := do
  let s ← s.saveCandidate
  let (text, broken, cursor) ←
    Scalar.plain s.inFlow (s.indent + 1).toNat s.mark s.cursor.rest s.mark .closed ""
  return { s.push (.scalar text .plain) s.mark cursor.mark with
    cursor := cursor, keyAllowed := broken }

def startsPlain (s : Lexer) (c : Char) (following : Option Char) : Bool :=
  if c == '-' then !(following.any isBlank)
  else if c == '?' || c == ':' then !s.inFlow && !endsWord following
  else !endsWord (some c) && !isIndicator c

def next (s : Lexer) : Except Fault Lexer := do
  let s ← (s.skipToToken (s.cursor.rest.length + 1)).dropStale
  let s := s.unindentTo s.mark.column
  match s.cursor.peek with
  | none => s.atEnd
  | some c =>
      let following := s.cursor.peekAt 1
      let separate := s.inFlow || endsWord following
      if s.mark.column = 0 && c == '%' then s.directive
      else if s.mark.column = 0 && startsWithDocumentMark s.cursor.rest then
        s.documentIndicator (if c == '-' then .documentStart else .documentEnd)
      else if c == '[' then s.openFlow .flowSequenceStart
      else if c == '\x7b' then s.openFlow .flowMappingStart
      else if c == ']' then s.closeFlow .flowSequenceEnd
      else if c == '\x7d' then s.closeFlow .flowMappingEnd
      else if c == ',' then s.flowEntry
      else if c == '-' && endsWord following then s.blockEntry
      else if c == '?' && separate then s.explicitKey
      else if c == ':' && separate then s.value
      else if c == '*' then s.anchor .reference .reference
      else if c == '&' then s.anchor .anchor .anchor
      else if c == '!' then s.tag
      else if c == '|' && !s.inFlow then s.blockScalar false
      else if c == '>' && !s.inFlow then s.blockScalar true
      else if c == '\x27' then s.quotedScalar true
      else if c == '\x22' then s.quotedScalar false
      else if s.startsPlain c following then s.plainScalar
      else throw (.syntactic .noSuchToken s.mark (some (.nextToken, s.mark)))

/-- The number of tokens before the first candidate. -/
def released (s : Lexer) : Nat :=
  s.candidates.foldl
    (fun count candidate => match candidate with
      | some candidate => min count candidate.position
      | none => count)
    s.tokens.size

def finished (s : Lexer) : Bool := s.tokens.back?.any fun token => token.kind == .streamEnd

/-- Reads tokens to the end; the fuel bounds their number. -/
def run : Nat → Lexer → TokenStream
  | 0, s => ⟨s.tokens.toList, none⟩
  | fuel + 1, s =>
      if s.finished then ⟨s.tokens.toList, none⟩
      else
        match s.next >>= dropStale with
        | .ok s => run fuel s
        | .error fault => ⟨s.tokens.toList.take s.released, some fault⟩

end Lexer

def TokenStream.ofText (text : String) : TokenStream :=
  match firstForbidden? text.toList 0 with
  | some offset => ⟨[], some (.controlCharacter offset)⟩
  | none => Lexer.run (text.length + 2) (.start text)

end InstallerSetup.Yaml
