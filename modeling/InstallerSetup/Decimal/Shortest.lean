import InstallerSetup.Decimal.Binary64

/-!
# The shortest decimal of a floating point number

`shortest` gives the fewest decimal digits that read back as the same number, and among those the
ones nearest to it. `Layout` says how digits are laid out; two layouts are used, the one of
documents (`Layout.document`) and one that never writes an exponent (`Layout.positional`).
-/

namespace InstallerSetup.Decimal

/-- A positive decimal `digits * 10 ^ tens`. -/
structure Digits where
  digits : Nat
  tens : Int
  deriving DecidableEq, Repr

namespace Digits

def strip : Nat → Digits → Digits
  | 0, d => d
  | fuel + 1, d =>
      if d.digits ≠ 0 ∧ d.digits % 10 = 0 then strip fuel ⟨d.digits / 10, d.tens + 1⟩ else d

end Digits

/--
The decimals that read back as `mantissa * 2 ^ exponent`, described in quarters of the last binary
place: those between `low` and `high`, the ends included when the mantissa is even.
-/
structure Interval where
  low : Nat
  value : Nat
  high : Nat
  closed : Bool

def Interval.around (mantissa : Nat) (exponent : Int) : Interval where
  low :=
    if 2 * mantissa = Binary64.mantissaLimit ∧ Binary64.minExponent < exponent then 4 * mantissa - 1
    else 4 * mantissa - 2
  value := 4 * mantissa
  high := 4 * mantissa + 2
  closed := mantissa % 2 == 0

/-- Whether `candidate * grid` lies in the interval measured in `unit`. -/
def Interval.holds (i : Interval) (candidate grid unit : Nat) : Bool :=
  let x := candidate * grid
  if i.closed then decide (i.low * unit ≤ x ∧ x ≤ i.high * unit)
  else decide (i.low * unit < x ∧ x < i.high * unit)

/-- The largest `p`, searched upward from `p`, with `10 ^ p ≤ value`. -/
def magnitudeFrom (num den : Nat) : Nat → Int → Int
  | 0, p => p
  | fuel + 1, p =>
      let (up, down) := Binary64.powerFraction 10 (p + 1)
      if up * den ≤ num * down then magnitudeFrom num den fuel (p + 1) else p

/--
The first grid, from the coarsest on, that has a point in the interval; of two such points the
nearer one, and of two equally near ones the even one.
-/
def firstHit (interval : Interval) (unitUp unitDown : Nat) (magnitude : Int) :
    Nat → Nat → Digits
  | 0, _ => ⟨interval.value * unitUp / unitDown, 0⟩
  | fuel + 1, count =>
      let tens : Int := magnitude - (count : Int)
      let (up, down) := Binary64.powerFraction 10 tens
      let grid := up * unitDown
      let unit := unitUp * down
      let target := interval.value * unit
      let below := target / grid
      let above := below + 1
      let hitBelow := interval.holds below grid unit
      let hitAbove := interval.holds above grid unit
      let nearerBelow :=
        let left := target - below * grid
        let right := above * grid - target
        left < right || (left == right && below % 2 == 0)
      if hitBelow && (nearerBelow || !hitAbove) then ⟨below, tens⟩
      else if hitAbove then ⟨above, tens⟩
      else firstHit interval unitUp unitDown magnitude fuel (count + 1)

def shortest (mantissa : Nat) (exponent : Int) : Digits :=
  let (unitUp, unitDown) := Binary64.powerFraction 2 (exponent - 2)
  let num := 4 * mantissa * unitUp
  let guess : Int := ((Nat.log2 mantissa : Int) + exponent) * 30103 / 100000 - 2
  let magnitude := magnitudeFrom num unitDown 6 guess
  (firstHit (Interval.around mantissa exponent) unitUp unitDown magnitude 18 0).strip 20

structure Layout where
  /-- Numbers from `10 ^ lowest` on are written without an exponent. -/
  lowest : Int
  /-- Numbers below `10 ^ highest` are written without an exponent. -/
  highest : Int
  infinity : String
  minusInfinity : String
  notANumber : String

/-- Documents write numbers from `0.00001` up to `10 ^ 16` without an exponent. -/
def Layout.document : Layout := ⟨-5, 16, ".inf", "-.inf", ".nan"⟩

def Layout.positional : Layout := ⟨-400, 400, "inf", "-inf", "NaN"⟩

/-- The text of a positive decimal; it always has a point or an exponent. -/
def Layout.digits (layout : Layout) (d : Digits) : String :=
  let text := toString d.digits
  let count : Int := text.length
  let top := count + d.tens
  let zeros (n : Int) : String := String.ofList (List.replicate n.toNat '0')
  if 0 ≤ d.tens ∧ top ≤ layout.highest then text ++ zeros d.tens ++ ".0"
  else if 0 < top ∧ top ≤ layout.highest then
    String.ofList (text.toList.take top.toNat) ++ "." ++ String.ofList (text.toList.drop top.toNat)
  else if layout.lowest < top ∧ top ≤ 0 then "0." ++ zeros (-top) ++ text
  else
    let power := "e" ++ toString (top - 1)
    match text.toList with
    | [] => power
    | [d] => String.ofList [d] ++ power
    | d :: rest => String.ofList (d :: '.' :: rest) ++ power

def Layout.render (layout : Layout) : Binary64 → String
  | .notANumber => layout.notANumber
  | .infinite negative => if negative then layout.minusInfinity else layout.infinity
  | .finite negative mantissa exponent =>
      let unsigned :=
        if mantissa = 0 then "0.0" else layout.digits (shortest mantissa exponent)
      if negative then "-" ++ unsigned else unsigned

end InstallerSetup.Decimal
