import InstallerSetup.Text.Pattern
import InstallerSetup.Text.Pieces

/-!
# Rules

A rule accepts the value of a field or says why it refuses it. Rules look at nothing but the value.
A setting that may be left out accepts the empty text; fields without a rule of their own take
`Rule.any`.
-/

namespace InstallerSetup

open Text (Pattern)

inductive NumeralFault where
  | notDigit
  /-- The value needs more than 64 bits. -/
  | tooLarge
  deriving DecidableEq, Repr

def NumeralFault.message : NumeralFault → String
  | notDigit => "invalid digit found in string"
  | tooLarge => "number too large to fit in target type"

inductive Refusal where
  | noName
  | longName
  | nameCharacters
  | domainCharacters
  | noEmail
  | noRegion
  | noVpcId
  | noDnsAddress
  | noAddress
  /-- A part of an address above 255. -/
  | wideOctet
  | certificateNotPem
  | keyNotPem
  | authorityNotPem
  | portNotNumeral (text : String) (fault : NumeralFault)
  | portOutOfRange
  | platformMissing
  /-- The user interface without anything that it shows. -/
  | interfaceAlone
  /-- A reason in words of its own. -/
  | worded (text : String)
  deriving DecidableEq, Repr

def Refusal.message : Refusal → String
  | noName => "orchestrator name cannot be empty"
  | longName => "orchestrator name must be less than 16 characters"
  | nameCharacters => "orchestrator name must be all lower case letters or digits"
  | domainCharacters => "parent domain must be all lower case letters, digits, '.' or '-'"
  | noEmail => "admin email must be a valid email address"
  | noRegion => "region must follow the format '^[a-z]+-[a-z]+-\\d$', e.g., 'us-west-2'"
  | noVpcId => "VPC ID must follow the format '^vpc-[0-9a-f]\x7b8\x7d$', e.g., 'vpc-12345678'"
  | noDnsAddress => "EKS DNS IP must be a dotted-quad address, e.g., '172.20.0.10'"
  | noAddress => "IP address must be a dotted-quad address, e.g., '192.168.1.1'"
  | wideOctet => "IP address octets must be between 0 and 255"
  | certificateNotPem => "TLS certificate must be in PEM format"
  | keyNotPem => "TLS key must be in PEM format"
  | authorityNotPem => "TLS CA must be in PEM format"
  | portNotNumeral text fault => "cannot convert " ++ text ++ " to integer: " ++ fault.message
  | portOutOfRange => "SMTP port must be between 1 and 65535"
  | platformMissing => "FPS must be enabled"
  | interfaceAlone =>
      "UI cannot be enabled without at least one of EIM, AO, or CO being enabled"
  | worded text => text

/-- A check of a text. -/
abbrev Rule := String → Except Refusal Unit

/-- A check of the identifiers that are picked from a list. -/
abbrev SetRule := List String → Except Refusal Unit

namespace Rule

def isLower (c : Char) : Bool := 'a' ≤ c && c ≤ 'z'

def isDigit (c : Char) : Bool := '0' ≤ c && c ≤ '9'

def isLowerOrDigit (c : Char) : Bool := isLower c || isDigit c

def isHexDigit (c : Char) : Bool := isDigit c || 'a' ≤ c && c ≤ 'f'

def isDomainCharacter (c : Char) : Bool := isLowerOrDigit c || c == '.' || c == '-'

def isMailboxCharacter (c : Char) : Bool :=
  isLowerOrDigit c || c == '.' || c == '_' || c == '%' || c == '+' || c == '-'

def sequence : List Pattern → Pattern
  | [] => .done
  | [p] => p
  | p :: rest => .chain p (sequence rest)

def literal (text : String) : Pattern := .literal text.toList

/-- A mailbox, an at sign, and a domain whose last part has at least two letters. -/
def emailPattern : Pattern :=
  sequence
    [.some (.one isMailboxCharacter), literal "@", .some (.one isDomainCharacter), literal ".",
      .one isLower, .some (.one isLower)]

def regionPattern : Pattern :=
  sequence
    [.some (.one isLower), literal "-", .some (.one isLower), literal "-", .one isDigit]

def vpcPattern : Pattern := sequence [literal "vpc-", .times (.one isHexDigit) 8]

def octetPattern : Pattern :=
  sequence [.one isDigit, .optional (.one isDigit), .optional (.one isDigit)]

def quadPattern : Pattern :=
  sequence
    [octetPattern, literal ".", octetPattern, literal ".", octetPattern, literal ".", octetPattern]

def pemPattern (content : String) : Pattern :=
  sequence
    [literal ("-----BEGIN " ++ content ++ "-----\n"), .many (.one fun _ => true),
      literal ("\n-----END " ++ content ++ "-----"), .optional (literal "\n")]

def matching (p : Pattern) (refusal : Refusal) : Rule := fun s =>
  if p.matchesText s then .ok () else .error refusal

/-- The rule for a setting that may be left out. -/
def orEmpty (rule : Rule) : Rule := fun s => if s.isEmpty then .ok () else rule s

def any : Rule := fun _ => .ok ()

/-- The name of a deployment; its length counts in bytes. -/
def orchName : Rule := fun s =>
  if s.isEmpty then .error .noName
  else if 16 ≤ s.utf8ByteSize then .error .longName
  else matching (.some (.one isLowerOrDigit)) .nameCharacters s

def parentDomain : Rule := matching (.some (.one isDomainCharacter)) .domainCharacters

def adminEmail : Rule := matching emailPattern .noEmail

def awsRegion : Rule := matching regionPattern .noRegion

def awsVpcId : Rule := orEmpty (matching vpcPattern .noVpcId)

/-- An address by its form alone; its parts may exceed 255. -/
def eksDnsIp : Rule := orEmpty (matching quadPattern .noDnsAddress)

/-- The least number that is too large for a numeral, `2 ^ 64`. -/
def numeralLimit : Nat := 18446744073709551616

/-- The value of a decimal numeral, given that of the digits before it. -/
def numeral : Nat → List Char → Except NumeralFault Nat
  | value, [] => .ok value
  | value, c :: rest =>
      if isDigit c then
        let value := 10 * value + (c.toNat - 48)
        if numeralLimit ≤ value then .error .tooLarge else numeral value rest
      else .error .notDigit

def signedNumeral : List Char → Except NumeralFault Nat
  | [] => .error .notDigit
  | ['+'] => .error .notDigit
  | '+' :: digits => numeral 0 digits
  | digits => numeral 0 digits

def isOctet (digits : List Char) : Bool :=
  match numeral 0 digits with
  | .ok value => value ≤ 255
  | .error _ => false

/-- An address of four groups of digits, none above 255. -/
def ip : Rule := fun s =>
  match matching quadPattern .noAddress s with
  | .error refusal => .error refusal
  | .ok () =>
      if (Text.pieces '.' s.toList).all isOctet then .ok () else .error .wideOctet

def tlsCert : Rule := orEmpty (matching (pemPattern "CERTIFICATE") .certificateNotPem)

def tlsKey : Rule := orEmpty (matching (pemPattern "PRIVATE KEY") .keyNotPem)

def tlsCa : Rule := orEmpty (matching (pemPattern "CERTIFICATE") .authorityNotPem)

def smtpPort : Rule := orEmpty fun s =>
  match signedNumeral s.toList with
  | .error fault => .error (.portNotNumeral s fault)
  | .ok port => if 1 ≤ port ∧ port ≤ 65535 then .ok () else .error .portOutOfRange

end Rule

namespace SetRule

def any : SetRule := fun _ => .ok ()

/-- The packages of the simple mode: the platform, and something to show with the interface. -/
def simpleMode : SetRule := fun ids =>
  if !ids.contains "fps" then .error .platformMissing
  else if ids.contains "ui" && !ids.contains "eim" && !ids.contains "co" && !ids.contains "ao" then
    .error .interfaceAlone
  else .ok ()

end SetRule

end InstallerSetup
