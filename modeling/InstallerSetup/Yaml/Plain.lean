import InstallerSetup.Yaml.Tree

/-!
# The meaning of plain scalars

A scalar without quotes is the null value, a truth value, an integer or a floating point number if
it is spelled like one, and a text otherwise. Digits after a leading zero are a text.
-/

namespace InstallerSetup.Yaml.Plain

open InstallerSetup.Decimal (Binary64)

/-- What a plain scalar means; an integer of more than 64 bits is set apart. -/
inductive Meaning where
  | tree (value : Tree)
  | wide (value : Int)
  deriving Repr

def isNull (cs : List Char) : Bool :=
  cs == "null".toList || cs == "Null".toList || cs == "NULL".toList || cs == "~".toList

def bool? (cs : List Char) : Option Bool :=
  if cs == "true".toList || cs == "True".toList || cs == "TRUE".toList then some true
  else if cs == "false".toList || cs == "False".toList || cs == "FALSE".toList then some false
  else none

def digit? (base : Nat) (c : Char) : Option Nat :=
  let value :=
    if c.isDigit then c.toNat - '0'.toNat
    else if 'a' ≤ c && c ≤ 'f' then c.toNat - 'a'.toNat + 10
    else if 'A' ≤ c && c ≤ 'F' then c.toNat - 'A'.toNat + 10
    else 16
  if value < base then some value else none

def digitsFrom? (base : Nat) : List Char → Nat → Option Nat
  | [], value => some value
  | c :: rest, value =>
      match digit? base c with
      | some digit => digitsFrom? base rest (base * value + digit)
      | none => none

def natural? (base : Nat) (cs : List Char) : Option Nat :=
  if cs.isEmpty then none else digitsFrom? base cs 0

/-- Whether a text consists of a zero and further digits, after an optional sign. -/
def isZeroPadded (cs : List Char) : Bool :=
  let digits := match cs with
    | '-' :: rest => rest
    | '+' :: rest => rest
    | _ => cs
  match digits with
  | '0' :: c :: rest => (c :: rest).all Char.isDigit
  | _ => false

def based? : List Char → Option (Nat × List Char)
  | '0' :: 'x' :: rest => some (16, rest)
  | '0' :: 'o' :: rest => some (8, rest)
  | '0' :: 'b' :: rest => some (2, rest)
  | _ => none

def magnitude? (cs : List Char) : Option Nat :=
  match based? cs with
  | some (base, digits) => natural? base digits
  | none => if isZeroPadded cs then none else natural? 10 cs

/-- An integer of any size; the answer says whether a minus stands in front. -/
def integer? : List Char → Option (Bool × Nat)
  | '-' :: rest => (magnitude? rest).map fun n => (true, n)
  | '+' :: rest => (magnitude? rest).map fun n => (false, n)
  | cs => (magnitude? cs).map fun n => (false, n)

/-- The magnitude `2 ^ 127`, which is the largest one that an integer with a minus sign may have. -/
def halfLimit : Nat := 170141183460469231731687303715884105728

/-- An integer between `-2 ^ 127` and `2 ^ 128 - 1`. -/
def bounded? (cs : List Char) : Option Int :=
  match integer? cs with
  | some (true, n) => if n ≤ halfLimit then some (-(n : Int)) else none
  | some (false, n) => if n < 2 * halfLimit then some n else none
  | none => none

/-- Whether an integer has 64 bits, with a sign if it is negative. -/
def isNarrow (n : Int) : Bool := -9223372036854775808 ≤ n && n < 18446744073709551616

def spanDigits (cs : List Char) : List Char × List Char := cs.span Char.isDigit

def exponent? : List Char → Option Int
  | [] => some 0
  | c :: rest =>
      if c == 'e' || c == 'E' then
        match rest with
        | '-' :: digits => (natural? 10 digits).map fun n => -(n : Int)
        | '+' :: digits => (natural? 10 digits).map Int.ofNat
        | digits => (natural? 10 digits).map Int.ofNat
      else none

/-- A decimal number without sign: digits with an optional point and an optional exponent. -/
def decimal? (negative : Bool) (cs : List Char) : Option Binary64 :=
  let (whole, rest) := spanDigits cs
  let (fraction, rest) := match rest with
    | '.' :: rest => spanDigits rest
    | _ => ([], rest)
  if whole.isEmpty && fraction.isEmpty then none
  else
    match digitsFrom? 10 (whole ++ fraction) 0, exponent? rest with
    | some digits, some power => some (.ofDecimal negative digits (power - fraction.length))
    | _, _ => none

def finite? (cs : List Char) : Option Binary64 :=
  let value := match cs with
    | '-' :: rest => decimal? true rest
    | '+' :: rest => decimal? false rest
    | _ => decimal? false cs
  value.filter Binary64.isFinite

/-- A floating point number, or one of the names of the infinities and of what is no number. -/
def float? (cs : List Char) : Option Binary64 :=
  let text := String.ofList cs
  if [".inf", ".Inf", ".INF", "+.inf", "+.Inf", "+.INF"].contains text then some (.infinite false)
  else if ["-.inf", "-.Inf", "-.INF"].contains text then some (.infinite true)
  else if [".nan", ".NaN", ".NAN"].contains text then some .notANumber
  else finite? cs

def meaning (text : String) : Meaning :=
  let cs := text.toList
  if cs.isEmpty || isNull cs then .tree .null
  else
    match bool? cs with
    | some value => .tree (.bool value)
    | none =>
        match bounded? cs with
        | some n => if isNarrow n then .tree (.int n) else .wide n
        | none =>
            match (if isZeroPadded cs then none else float? cs) with
            | some value => .tree (.float value)
            | none => .tree (.string text)

end InstallerSetup.Yaml.Plain
