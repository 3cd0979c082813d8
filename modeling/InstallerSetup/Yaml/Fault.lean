import InstallerSetup.Yaml.Mark

/-!
# Reasons why a text is not YAML

A `Fault` names a `Problem`, the place where it shows and, for most problems, the `Activity` during
which it came up. `Fault.message` is its wording.
-/

namespace InstallerSetup.Yaml

inductive Problem where
  | noSuchToken
  | missingColon
  | sequenceEntryNotAllowed
  | mappingKeyNotAllowed
  | mappingValueNotAllowed
  | unknownDirective
  | missingDirectiveName
  | badDirectiveName
  | badDirectiveEnd
  | missingVersionNumber
  | missingVersionPoint
  | longVersionNumber
  | missingTagBlank
  | missingTagEnd
  | missingTagMark
  | missingTagClose
  | missingTagText
  | missingTagOctet
  | badLeadingOctet
  | badTrailingOctet
  | missingAnchorName
  | zeroIndentation
  | badBlockHeader
  | tabInIndentation
  | documentMarkInScalar
  | endInScalar
  | unknownEscape
  | missingHexDigit
  | badCodePoint
  | colonInFlow
  | tabBreaksIndentation
  | missingDocumentStart
  | repeatedVersion
  | unsupportedVersion
  | repeatedTagHandle
  | unknownTagHandle
  | missingContent
  | missingSequenceEntry
  | missingMappingKey
  | missingFlowSequenceEnd
  | missingFlowMappingEnd
  deriving DecidableEq, Repr

def Problem.text : Problem → String
  | noSuchToken => "found character that cannot start any token"
  | missingColon => "could not find expected ':'"
  | sequenceEntryNotAllowed => "block sequence entries are not allowed in this context"
  | mappingKeyNotAllowed => "mapping keys are not allowed in this context"
  | mappingValueNotAllowed => "mapping values are not allowed in this context"
  | unknownDirective => "found unknown directive name"
  | missingDirectiveName => "could not find expected directive name"
  | badDirectiveName => "found unexpected non-alphabetical character"
  | badDirectiveEnd => "did not find expected comment or line break"
  | missingVersionNumber => "did not find expected version number"
  | missingVersionPoint => "did not find expected digit or '.' character"
  | longVersionNumber => "found extremely long version number"
  | missingTagBlank => "did not find expected whitespace"
  | missingTagEnd => "did not find expected whitespace or line break"
  | missingTagMark => "did not find expected '!'"
  | missingTagClose => "did not find the expected '>'"
  | missingTagText => "did not find expected tag URI"
  | missingTagOctet => "did not find URI escaped octet"
  | badLeadingOctet => "found an incorrect leading UTF-8 octet"
  | badTrailingOctet => "found an incorrect trailing UTF-8 octet"
  | missingAnchorName => "did not find expected alphabetic or numeric character"
  | zeroIndentation => "found an indentation indicator equal to 0"
  | badBlockHeader => "did not find expected comment or line break"
  | tabInIndentation => "found a tab character where an indentation space is expected"
  | documentMarkInScalar => "found unexpected document indicator"
  | endInScalar => "found unexpected end of stream"
  | unknownEscape => "found unknown escape character"
  | missingHexDigit => "did not find expected hexdecimal number"
  | badCodePoint => "found invalid Unicode character escape code"
  | colonInFlow => "found unexpected ':'"
  | tabBreaksIndentation => "found a tab character that violates indentation"
  | missingDocumentStart => "did not find expected <document start>"
  | repeatedVersion => "found duplicate %YAML directive"
  | unsupportedVersion => "found incompatible YAML document"
  | repeatedTagHandle => "found duplicate %TAG directive"
  | unknownTagHandle => "found undefined tag handle"
  | missingContent => "did not find expected node content"
  | missingSequenceEntry => "did not find expected '-' indicator"
  | missingMappingKey => "did not find expected key"
  | missingFlowSequenceEnd => "did not find expected ',' or ']'"
  | missingFlowMappingEnd => "did not find expected ',' or '\x7d'"

inductive Activity where
  | nextToken
  | simpleKey
  | directive
  | versionDirective
  | tagDirective
  | tagDirectiveHandle
  | tagDirectiveHandleEnd
  | tagDirectiveText
  | anchor
  | reference
  | tag
  | tagText
  | blockScalar
  | quotedScalar
  | quotedEscape
  | plainScalar
  | node
  | blockNode
  | flowNode
  | blockCollection
  | blockMapping
  | flowSequence
  | flowMapping
  deriving DecidableEq, Repr

def Activity.text : Activity → String
  | nextToken => "while scanning for the next token"
  | simpleKey => "while scanning a simple key"
  | directive => "while scanning a directive"
  | versionDirective => "while scanning a %YAML directive"
  | tagDirective => "while scanning a %TAG directive"
  | tagDirectiveHandle => "while scanning a tag directive"
  | tagDirectiveHandleEnd => "while parsing a tag directive"
  | tagDirectiveText => "while parsing a %TAG directive"
  | anchor => "while scanning an anchor"
  | reference => "while scanning an alias"
  | tag => "while scanning a tag"
  | tagText => "while parsing a tag"
  | blockScalar => "while scanning a block scalar"
  | quotedScalar => "while scanning a quoted scalar"
  | quotedEscape => "while parsing a quoted scalar"
  | plainScalar => "while scanning a plain scalar"
  | node => "while parsing a node"
  | blockNode => "while parsing a block node"
  | flowNode => "while parsing a flow node"
  | blockCollection => "while parsing a block collection"
  | blockMapping => "while parsing a block mapping"
  | flowSequence => "while parsing a flow sequence"
  | flowMapping => "while parsing a flow mapping"

inductive Fault where
  /-- A character that no YAML text may hold, after a number of bytes. -/
  | controlCharacter (offset : Nat)
  /-- A problem at a mark, with the activity and the mark where that began. -/
  | syntactic (problem : Problem) (mark : Mark) (context : Option (Activity × Mark))
  deriving DecidableEq, Repr

namespace Fault

/-- The place of a fault; a character that is not allowed counts as the first place. -/
def mark : Fault → Mark
  | controlCharacter _ => .origin
  | syntactic _ mark _ => mark

def message : Fault → String
  | controlCharacter offset =>
      "control characters are not allowed" ++
        if offset = 0 then "" else s!" at position {offset}"
  | syntactic problem mark context =>
      let head := problem.text ++ mark.suffix
      match context with
      | none => head
      | some (activity, start) =>
          head ++ ", " ++ activity.text ++ if start.sameSpot mark then "" else start.suffix

end Fault

end InstallerSetup.Yaml
