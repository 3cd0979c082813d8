import InstallerSetup.Yaml.Event
import InstallerSetup.Yaml.Token.Stream

/-!
# The events of a text

`EventStream.ofTokens` recognises the structure of a text in its tokens. The recogniser is a
pushdown machine: `Expect` says what comes next, and a stack holds what comes after the node that
is being read.
-/

namespace InstallerSetup.Yaml

inductive Expect where
  | streamStart
  | firstDocument
  | document
  | documentContent
  | documentEnd
  | node
  | sequenceFirst
  | sequenceEntry
  | indentlessEntry
  | mappingFirst
  | mappingKey
  | mappingValue
  | flowSequenceFirst
  | flowSequenceEntry
  | pairKey
  | pairValue
  | pairEnd
  | flowMappingFirst
  | flowMappingKey
  | flowMappingValue
  | flowMappingNoValue
  | finished
  deriving DecidableEq, Repr

/-- Events and what ended them; without a fault the last event is `streamEnd`. -/
structure EventStream where
  events : List Event
  fault : Option Fault

structure Recogniser where
  /-- The tokens that are still to be read. -/
  tokens : List Token
  /-- What ends the tokens. -/
  fault : Option Fault
  expect : Expect
  /-- What comes after the nodes that are being read, the innermost first. -/
  stack : List Expect
  /-- Where the collections that are being read began, the innermost first. -/
  openings : List Mark
  /-- The tag handles of the document and what they stand for. -/
  handles : List (List UInt8 × List UInt8)

/-- A step ends in an event and the state after it, or in the fault that stops the events. -/
abbrev Step := Except (Option Fault) (Event × Recogniser)

namespace Recogniser

def ofTokens (stream : TokenStream) : Recogniser :=
  ⟨stream.tokens, stream.fault, .streamStart, [], [], []⟩

/-- The next token; if there is none, the fault that ended the tokens. -/
def peek (r : Recogniser) : Except (Option Fault) Token :=
  match r.tokens with
  | token :: _ => .ok token
  | [] => .error r.fault

def skip (r : Recogniser) : Recogniser := { r with tokens := r.tokens.tail }

def pop (r : Recogniser) : Recogniser :=
  { r with expect := r.stack.headD .finished, stack := r.stack.tail }

def close (r : Recogniser) : Recogniser := { r.pop with openings := r.openings.tail }

def push (r : Recogniser) (after : Expect) : Recogniser := { r with stack := after :: r.stack }

def fail {α : Type} (problem : Problem) (mark : Mark) : Except (Option Fault) α :=
  .error (some (.syntactic problem mark none))

def failInside {α : Type} (r : Recogniser) (activity : Activity) (problem : Problem)
    (mark : Mark) : Except (Option Fault) α :=
  .error (some (.syntactic problem mark (some (activity, r.openings.headD .origin))))

/-- An absent node, which reads as an empty plain scalar. -/
def absent (r : Recogniser) (expect : Expect) (mark : Mark) : Step :=
  .ok (⟨.scalar .none "" true, mark⟩, { r with expect := expect })

def resolveTag (r : Recogniser) (start : Mark) (handle suffix : List UInt8) (mark : Mark) :
    Except (Option Fault) (List UInt8) :=
  if handle.isEmpty then .ok suffix
  else
    match r.handles.find? fun (known, _) => known == handle with
    | some (_, expansion) => .ok (expansion ++ suffix)
    | none => .error (some (.syntactic .unknownTagHandle mark (some (.node, start))))

def readAnchor (r : Recogniser) : Except (Option Fault) (Option String × Recogniser) := do
  let token ← r.peek
  match token.kind with
  | .anchor name => return (some name, r.skip)
  | _ => return (none, r)

/-- The tag in front of a node, with its handle not yet looked up. -/
def readTag (r : Recogniser) :
    Except (Option Fault) (Option (List UInt8 × List UInt8 × Mark) × Recogniser) := do
  let token ← r.peek
  match token.kind with
  | .tag handle suffix => return (some (handle, suffix, token.start), r.skip)
  | _ => return (none, r)

/--
Reads the beginning of a node. Block collections may begin only where `block` is set, and a
sequence without indentation only where `indentless` is.
-/
def node (r : Recogniser) (block indentless : Bool) : Step := do
  let first ← r.peek
  match first.kind with
  | .reference name => return (⟨.reference name, first.start⟩, r.pop.skip)
  | _ =>
      let (anchor, r) ← r.readAnchor
      let (tag, r) ← r.readTag
      let (anchor, r) ← if anchor.isSome then pure (anchor, r) else r.readAnchor
      let token ← r.peek
      let start := first.start
      let bytes ← match tag with
        | some (handle, suffix, mark) => do
            let bytes ← r.resolveTag start handle suffix mark
            pure (some bytes)
        | none => pure none
      let properties : Properties := ⟨anchor, bytes.bind Tag.ofBytes?⟩
      match token.kind with
      | .scalar text style =>
          let isLone := bytes == some [UInt8.ofNat '!'.toNat]
          let properties := if isLone then ⟨anchor, none⟩ else properties
          return (⟨.scalar properties text (style == .plain), start⟩, r.pop.skip)
      | .flowSequenceStart =>
          return (⟨.sequenceStart properties, start⟩, { r with expect := .flowSequenceFirst })
      | .flowMappingStart =>
          return (⟨.mappingStart properties, start⟩, { r with expect := .flowMappingFirst })
      | kind =>
          if indentless && kind == .blockEntry then
            return (⟨.sequenceStart properties, start⟩, { r with expect := .indentlessEntry })
          else if block && kind == .blockSequenceStart then
            return (⟨.sequenceStart properties, start⟩, { r with expect := .sequenceFirst })
          else if block && kind == .blockMappingStart then
            return (⟨.mappingStart properties, start⟩, { r with expect := .mappingFirst })
          else if anchor.isSome || bytes.isSome then
            return (⟨.scalar properties "" true, start⟩, r.pop)
          else
            let activity := if block then Activity.blockNode else Activity.flowNode
            throw (some (.syntactic .missingContent token.start (some (activity, start))))

def standardHandles : List (List UInt8 × List UInt8) :=
  [(Text.encode "!", Text.encode "!"), (Text.encode "!!", Text.encode Tag.standardPrefix)]

def directives : Nat → Bool → List (List UInt8 × List UInt8) → Recogniser →
    Except (Option Fault) Recogniser
  | 0, _, _, r => .ok r
  | fuel + 1, versioned, handles, r => do
      let token ← r.peek
      match token.kind with
      | .versionDirective major minor =>
          if versioned then fail .repeatedVersion token.start
          else if major ≠ 1 ∨ (minor ≠ 1 ∧ minor ≠ 2) then fail .unsupportedVersion token.start
          else directives fuel true handles r.skip
      | .tagDirective handle expansion =>
          if handles.any fun (known, _) => known == handle then
            fail .repeatedTagHandle token.start
          else directives fuel versioned (handles ++ [(handle, expansion)]) r.skip
      | _ =>
          let standard := standardHandles.filter fun (handle, _) =>
            !(handles.any fun (known, _) => known == handle)
          return { r with handles := handles ++ standard }

def skipDocumentEnds (r : Recogniser) : Recogniser :=
  { r with tokens := r.tokens.dropWhile fun token => token.kind == .documentEnd }

def beginsDocument : Token.Kind → Bool
  | .versionDirective .. | .tagDirective .. | .documentStart => true
  | _ => false

def document (r : Recogniser) (first : Bool) : Step := do
  let r := if first then r else r.skipDocumentEnds
  let token ← r.peek
  match token.kind with
  | .streamEnd => return (⟨.streamEnd, token.start⟩, { r.skip with expect := .finished })
  | kind =>
      if first && !beginsDocument kind then
        let r := { r with handles := standardHandles, expect := .node }
        return (⟨.documentStart, token.start⟩, r.push .documentEnd)
      else
        let r ← directives (r.tokens.length + 1) false [] r
        let content ← r.peek
        if content.kind == .documentStart then
          let r := { r.skip with expect := .documentContent }
          return (⟨.documentStart, token.start⟩, r.push .documentEnd)
        else fail .missingDocumentStart content.start

def documentContent (r : Recogniser) : Step := do
  let token ← r.peek
  if beginsDocument token.kind || token.kind == .documentEnd || token.kind == .streamEnd then
    .ok (⟨.scalar .none "" true, token.start⟩, r.pop)
  else r.node true false

def documentEnd (r : Recogniser) : Step := do
  let token ← r.peek
  let r := if token.kind == .documentEnd then r.skip else r
  return (⟨.documentEnd, token.start⟩, { r with expect := .document, handles := [] })

def sequenceEntry (r : Recogniser) : Step := do
  let token ← r.peek
  if token.kind == .blockEntry then
    let r := r.skip
    let following ← r.peek
    if following.kind == .blockEntry || following.kind == .blockEnd then
      r.absent .sequenceEntry token.stop
    else (r.push .sequenceEntry).node true false
  else if token.kind == .blockEnd then
    return (⟨.sequenceEnd, token.start⟩, r.close.skip)
  else r.failInside .blockCollection .missingSequenceEntry token.start

def indentlessEntry (r : Recogniser) : Step := do
  let token ← r.peek
  if token.kind == .blockEntry then
    let r := r.skip
    let following ← r.peek
    let kind := following.kind
    if kind == .blockEntry || kind == .key || kind == .value || kind == .blockEnd then
      r.absent .indentlessEntry token.stop
    else (r.push .indentlessEntry).node true false
  else return (⟨.sequenceEnd, token.start⟩, r.pop)

/-- Whether a token in a block mapping shows that a key or a value is absent. -/
def isMappingToken (kind : Token.Kind) : Bool :=
  kind == .key || kind == .value || kind == .blockEnd

def mappingKey (r : Recogniser) : Step := do
  let token ← r.peek
  if token.kind == .key then
    let r := r.skip
    let following ← r.peek
    if isMappingToken following.kind then r.absent .mappingValue token.stop
    else (r.push .mappingValue).node true true
  else if token.kind == .blockEnd then
    return (⟨.mappingEnd, token.start⟩, r.close.skip)
  else r.failInside .blockMapping .missingMappingKey token.start

def mappingValue (r : Recogniser) : Step := do
  let token ← r.peek
  if token.kind == .value then
    let r := r.skip
    let following ← r.peek
    if isMappingToken following.kind then r.absent .mappingKey token.stop
    else (r.push .mappingKey).node true true
  else r.absent .mappingKey token.start

def separator (r : Recogniser) (first : Bool) (activity : Activity) (problem : Problem) :
    Except (Option Fault) Recogniser := do
  if first then return r
  let token ← r.peek
  if token.kind == .flowEntry then return r.skip
  else r.failInside activity problem token.start

def flowSequenceEntry (r : Recogniser) (first : Bool) : Step := do
  let token ← r.peek
  let r ←
    if token.kind == .flowSequenceEnd then pure r
    else r.separator first .flowSequence .missingFlowSequenceEnd
  let token ← r.peek
  if token.kind == .flowSequenceEnd then
    return (⟨.sequenceEnd, token.start⟩, r.close.skip)
  else if token.kind == .key then
    return (⟨.mappingStart .none, token.start⟩, { r.skip with expect := .pairKey })
  else (r.push .flowSequenceEntry).node false false

def endsPairPart (kind : Token.Kind) : Bool := kind == .flowEntry || kind == .flowSequenceEnd

def pairKey (r : Recogniser) : Step := do
  let token ← r.peek
  if token.kind == .value || endsPairPart token.kind then r.skip.absent .pairValue token.stop
  else (r.push .pairValue).node false false

def pairValue (r : Recogniser) : Step := do
  let token ← r.peek
  if token.kind == .value then
    let r := r.skip
    let following ← r.peek
    if endsPairPart following.kind then r.absent .pairEnd following.start
    else (r.push .pairEnd).node false false
  else r.absent .pairEnd token.start

def pairEnd (r : Recogniser) : Step := do
  let token ← r.peek
  return (⟨.mappingEnd, token.start⟩, { r with expect := .flowSequenceEntry })

def endsFlowPart (kind : Token.Kind) : Bool := kind == .flowEntry || kind == .flowMappingEnd

def flowMappingKey (r : Recogniser) (first : Bool) : Step := do
  let token ← r.peek
  let r ←
    if token.kind == .flowMappingEnd then pure r
    else r.separator first .flowMapping .missingFlowMappingEnd
  let token ← r.peek
  if token.kind == .flowMappingEnd then
    return (⟨.mappingEnd, token.start⟩, r.close.skip)
  else if token.kind == .key then
    let r := r.skip
    let following ← r.peek
    if following.kind == .value || endsFlowPart following.kind then
      r.absent .flowMappingValue following.start
    else (r.push .flowMappingValue).node false false
  else (r.push .flowMappingNoValue).node false false

def flowMappingValue (r : Recogniser) : Step := do
  let token ← r.peek
  if token.kind == .value then
    let r := r.skip
    let following ← r.peek
    if endsFlowPart following.kind then r.absent .flowMappingKey following.start
    else (r.push .flowMappingKey).node false false
  else r.absent .flowMappingKey token.start

def enter (r : Recogniser) : Except (Option Fault) Recogniser := do
  let token ← r.peek
  return { r.skip with openings := token.start :: r.openings }

def step (r : Recogniser) : Step := do
  match r.expect with
  | .streamStart =>
      let token ← r.peek
      return (⟨.streamStart, token.start⟩, { r.skip with expect := .firstDocument })
  | .firstDocument => r.document true
  | .document => r.document false
  | .documentContent => r.documentContent
  | .documentEnd => r.documentEnd
  | .node => r.node true false
  | .sequenceFirst => do (← r.enter).sequenceEntry
  | .sequenceEntry => r.sequenceEntry
  | .indentlessEntry => r.indentlessEntry
  | .mappingFirst => do (← r.enter).mappingKey
  | .mappingKey => r.mappingKey
  | .mappingValue => r.mappingValue
  | .flowSequenceFirst => do (← r.enter).flowSequenceEntry true
  | .flowSequenceEntry => r.flowSequenceEntry false
  | .pairKey => r.pairKey
  | .pairValue => r.pairValue
  | .pairEnd => r.pairEnd
  | .flowMappingFirst => do (← r.enter).flowMappingKey true
  | .flowMappingKey => r.flowMappingKey false
  | .flowMappingValue => r.flowMappingValue
  | .flowMappingNoValue => do
      let token ← r.peek
      r.absent .flowMappingKey token.start
  | .finished => throw none

/-- Reads events to the end; the fuel bounds their number. -/
def run : Nat → Recogniser → List Event → EventStream
  | 0, _, events => ⟨events.reverse, none⟩
  | fuel + 1, r, events =>
      if r.expect = .finished then ⟨events.reverse, none⟩
      else
        match r.step with
        | .ok (event, r) => run fuel r (event :: events)
        | .error fault => ⟨events.reverse, fault⟩

end Recogniser

/-- The events of a stream of tokens. A token leads to at most four events. -/
def EventStream.ofTokens (stream : TokenStream) : EventStream :=
  Recogniser.run (4 * stream.tokens.length + 16) (.ofTokens stream) []

def EventStream.ofText (text : String) : EventStream := .ofTokens (.ofText text)

end InstallerSetup.Yaml
