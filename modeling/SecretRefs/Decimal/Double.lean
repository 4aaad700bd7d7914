/-! Double precision numbers as exact multiples of powers of two, and the double that is nearest to a
decimal. All arithmetic is on natural numbers; a tie goes to the even neighbour. -/

namespace SecretRefs.Decimal

def pow2 (n : Nat) : Nat := Nat.pow 2 n

def pow10 (n : Nat) : Nat := Nat.pow 10 n

/-- The number `mantissa * 2 ^ exponent`. -/
structure Binary where
  mantissa : Nat
  exponent : Int
  deriving DecidableEq, Repr

/-- The least exponent of a double, that of the subnormal numbers. -/
def leastExponent : Int := -1074

/-- The greatest exponent of a double. -/
def greatestExponent : Int := 971

namespace Binary

/-- The absolute value of a finite double. -/
def ofFloat (x : Float) : Binary :=
  let bits := x.toBits.toNat
  let fraction : Nat := bits % pow2 52
  let biased : Nat := bits / pow2 52 % pow2 11
  if biased = 0 then ⟨fraction, leastExponent⟩
  else ⟨pow2 52 + fraction, (biased : Int) - 1 + leastExponent⟩

/-- The double of a number with at most 53 bits in its mantissa; infinite if the exponent is too
large. A mantissa below `2 ^ 52` has the least exponent. -/
def toFloat (b : Binary) : Float :=
  if greatestExponent < b.exponent then Float.ofBits 0x7FF0000000000000
  else if b.mantissa < pow2 52 then Float.ofBits (UInt64.ofNat b.mantissa)
  else
    let biased := (b.exponent - leastExponent + 1).toNat
    Float.ofBits (UInt64.ofNat (biased * pow2 52 + (b.mantissa - pow2 52)))

end Binary

/-- The quotient rounded to the nearest integer, a tie to the even one. -/
def roundDiv (numerator denominator : Nat) : Nat :=
  let quotient := numerator / denominator
  let twice := 2 * (numerator % denominator)
  if twice < denominator then quotient
  else if denominator < twice then quotient + 1
  else quotient + quotient % 2

/-- `value * base ^ exponent` as a quotient. -/
def scaled (base value : Nat) (exponent : Int) : Nat × Nat :=
  (value * Nat.pow base exponent.toNat, Nat.pow base (-exponent).toNat)

/-- The multiple of a power of two that is nearest to a positive quotient, with 53 bits unless the
number is subnormal. -/
def nearest (numerator denominator : Nat) : Binary :=
  let estimate : Int := (numerator.log2 : Int) - denominator.log2 - 53
  let rounded (exponent : Int) : Nat :=
    let (up, down) := scaled 2 1 exponent
    roundDiv (numerator * down) (denominator * up)
  let narrow := max leastExponent estimate
  let exponent := if pow2 53 ≤ rounded narrow then narrow + 1 else narrow
  let mantissa := rounded exponent
  if mantissa = pow2 53 then ⟨pow2 52, exponent + 1⟩ else ⟨mantissa, exponent⟩

/-- The double that is nearest to `digits * 10 ^ exponent`. Beyond the range of doubles the answer is
infinity or zero, whatever the digits. -/
def toFloat (digits : Nat) (exponent : Int) : Float :=
  let magnitude := exponent + ((Nat.toDigits 10 digits).length : Int)
  if digits = 0 ∨ magnitude < -400 then 0.0
  else if 400 < magnitude then Float.ofBits 0x7FF0000000000000
  else
    let (numerator, denominator) := scaled 10 digits exponent
    (nearest numerator denominator).toFloat

end SecretRefs.Decimal
