/-!
# Binary floating point numbers

A `Binary64` is a number of the double precision format, held as sign, mantissa and binary
exponent, so that reading a decimal and writing one are exact computations on natural numbers.
`Binary64.ofDecimal` rounds a decimal to the nearest such number, a tie going to the even mantissa.
-/

namespace InstallerSetup.Decimal

/-- A double precision number; `finite` stands for `mantissa * 2 ^ exponent`. -/
inductive Binary64 where
  | notANumber
  | infinite (negative : Bool)
  | finite (negative : Bool) (mantissa : Nat) (exponent : Int)
  deriving DecidableEq, Repr, Inhabited

namespace Binary64

/-- Mantissas have at most 53 bits, so they are below `2 ^ 53`. -/
def mantissaLimit : Nat := 9007199254740992

def minExponent : Int := -1074

def maxExponent : Int := 971

def zero (negative : Bool) : Binary64 := .finite negative 0 minExponent

def isFinite : Binary64 → Bool
  | .finite .. => true
  | _ => false

/--
Numeric equality, which ignores the sign of zero, extended so that the value that is not a number
equals itself.
-/
def same : Binary64 → Binary64 → Bool
  | .notANumber, .notANumber => true
  | .infinite a, .infinite b => a == b
  | .finite _ 0 _, .finite _ 0 _ => true
  | .finite a m e, .finite b n f => a == b && m == n && e == f
  | _, _ => false

/-- The natural number nearest to `n / d`; of two equally near ones the even one. -/
def roundQuotient (n d : Nat) : Nat :=
  let quotient := n / d
  let twice := 2 * (n % d)
  if twice < d then quotient
  else if d < twice then quotient + 1
  else if quotient % 2 = 0 then quotient else quotient + 1

def powerFraction (base : Nat) (k : Int) : Nat × Nat :=
  if 0 ≤ k then (Nat.pow base k.toNat, 1) else (1, Nat.pow base (-k).toNat)

/-- The finite number nearest to `n / d`, or an infinite one when that is out of range. -/
def ofFraction (negative : Bool) (n d : Nat) : Binary64 :=
  if n = 0 then zero negative
  else
    let guess : Int := (Nat.log2 n : Int) - (Nat.log2 d : Int) - 52
    let quotientAt (e : Int) : Nat :=
      let (up, down) := powerFraction 2 e
      roundQuotient (n * down) (d * up)
    let reaches (e : Int) : Bool :=
      let (up, down) := powerFraction 2 e
      decide (d * up * mantissaLimit ≤ 2 * (n * down))
    let exponent := max minExponent (if reaches guess then guess else guess - 1)
    let mantissa := quotientAt exponent
    let (mantissa, exponent) :=
      if mantissa = mantissaLimit then (mantissa / 2, exponent + 1) else (mantissa, exponent)
    if maxExponent < exponent then .infinite negative else .finite negative mantissa exponent

/--
The number nearest to `digits * 10 ^ tens`. Decimals far outside the range are settled by their
magnitude alone, so that a huge exponent costs nothing.
-/
def ofDecimal (negative : Bool) (digits : Nat) (tens : Int) : Binary64 :=
  if digits = 0 then zero negative
  else
    let magnitude : Int := (Nat.log2 digits : Int) * 30103 / 100000 + tens
    if 400 < magnitude then .infinite negative
    else if magnitude < -400 then zero negative
    else
      let (up, down) := powerFraction 10 tens
      ofFraction negative (digits * up) down

end Binary64

end InstallerSetup.Decimal
