namespace RunGate.Decimal

/-- A binary floating-point number: `mantissa · 2 ^ exponent`, with a sign of its own. -/
inductive Binary
  | nan
  | infinite (negative : Bool)
  | finite (negative : Bool) (mantissa : Nat) (exponent : Int)
deriving DecidableEq

/-- `base ^ power` as a fraction, for powers of either sign. -/
def scale (base : Nat) (power : Int) : Nat × Nat :=
  if 0 ≤ power then (Nat.pow base power.toNat, 1) else (1, Nat.pow base (-power).toNat)

/-- A quotient rounded to the nearest number, an exact half going to the even one. -/
def roundEven (numerator denominator : Nat) : Nat :=
  let quotient := numerator / denominator
  let twice := 2 * (numerator % denominator)
  if twice < denominator then quotient
  else if denominator < twice then quotient + 1
  else quotient + quotient % 2

def leastExponent : Int := -1074

/-- The largest exponent of a finite number with a full mantissa. -/
def greatestExponent : Int := 971

/-- The finite number nearest to a positive fraction, with a mantissa below `2 ^ 53`; nothing when
it would be too large. -/
def nearestFraction (numerator denominator : Nat) : Option (Nat × Int) :=
  let rounded (exponent : Int) : Nat :=
    let (up, down) := scale 2 exponent
    roundEven (numerator * down) (denominator * up)
  let guess : Int := (numerator.log2 : Int) - denominator.log2 - 53
  let exponent := max guess leastExponent
  let exponent := if rounded exponent < Nat.pow 2 53 then exponent else exponent + 1
  let mantissa := rounded exponent
  let (mantissa, exponent) :=
    if mantissa < Nat.pow 2 53 then (mantissa, exponent)
    else (rounded (exponent + 1), exponent + 1)
  if greatestExponent < exponent then none else some (mantissa, exponent)

/-- The number nearest to `digits · 10 ^ power`; nothing when it would be too large. -/
def nearest (negative : Bool) (digits : Nat) (power : Int) : Option Binary :=
  let size : Int := (toString digits).length + power
  if digits == 0 || size < -330 then some (.finite negative 0 0)
  else if 310 < size then none
  else
    let (up, down) := scale 10 power
    (nearestFraction (digits * up) down).map fun (mantissa, exponent) =>
      .finite negative mantissa exponent

end RunGate.Decimal
