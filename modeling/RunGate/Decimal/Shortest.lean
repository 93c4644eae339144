import RunGate.Decimal.Binary

namespace RunGate.Decimal

/-- An interval of numbers in a common unit of `2 ^ unit`: everything between the bounds reads back
as `value`, the bounds themselves only when `closed`. -/
structure Interval where
  low : Nat
  value : Nat
  high : Nat
  unit : Int
  closed : Bool

/-- The numbers that round to `mantissa · 2 ^ exponent`. Below a power of two the gap is half as
wide; ends belong to even mantissas. -/
def Interval.around (mantissa : Nat) (exponent : Int) : Interval :=
  let narrow := mantissa == Nat.pow 2 52 && leastExponent < exponent
  ⟨4 * mantissa - (if narrow then 1 else 2), 4 * mantissa, 4 * mantissa + 2, exponent - 2,
    mantissa % 2 == 0⟩

def Interval.contains (interval : Interval) (count : Nat) (power : Int) : Bool :=
  let (up, down) := scale 10 power
  let (unitUp, unitDown) := scale 2 interval.unit
  let point := count * up * unitDown
  let bound (units : Nat) := units * unitUp * down
  if interval.closed then bound interval.low ≤ point && point ≤ bound interval.high
  else bound interval.low < point && point < bound interval.high

/-- The point of the grid `10 ^ power` that lies in the interval and is nearest to its value, the
upper one when two are equally near. -/
def Interval.gridPoint? (interval : Interval) (power : Int) : Option Nat :=
  let (up, down) := scale 10 power
  let (unitUp, unitDown) := scale 2 interval.unit
  let numerator := interval.value * unitUp * down
  let denominator := up * unitDown
  let below := numerator / denominator
  let left := numerator % denominator
  let nearer := if 2 * left < denominator then [below, below + 1] else [below + 1, below]
  nearer.find? fun count => interval.contains count power

/-- The fewest digits that read back, with the power of ten of the last one; the search goes from
the grid `10 ^ top` down. -/
def Interval.shortest (interval : Interval) : Nat → Int → Nat × Int
  | 0, power => (0, power)
  | grids + 1, power =>
    match interval.gridPoint? power with
    | some count => if count == 0 then interval.shortest grids (power - 1) else (count, power)
    | none => interval.shortest grids (power - 1)

/-- Digits and power of ten of the shortest decimal for `mantissa · 2 ^ exponent`. -/
def shortest (mantissa : Nat) (exponent : Int) : Nat × Int :=
  (Interval.around mantissa exponent).shortest 660 310

/-- A positive decimal number without an exponent, always with a point and a digit after it. -/
def positional (digits : Nat) (power : Int) : String :=
  let text := toString digits
  if 0 ≤ power then text ++ "".pushn '0' power.toNat ++ ".0"
  else
    let places := (-power).toNat
    let text := "".pushn '0' (places + 1 - text.length) ++ text
    String.ofList (text.toList.take (text.length - places)) ++ "." ++
      String.ofList (text.toList.drop (text.length - places))

def Binary.text : Binary → String
  | nan => "NaN"
  | infinite negative => if negative then "-inf" else "inf"
  | finite negative mantissa exponent =>
    let magnitude :=
      if mantissa == 0 then "0.0"
      else
        let (digits, power) := shortest mantissa exponent
        positional digits power
    if negative then "-" ++ magnitude else magnitude

end RunGate.Decimal
