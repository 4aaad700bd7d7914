import SecretRefs.Decimal.Double

/-! The shortest decimal that reads back as a given double, and its text. Of the decimals with the
fewest digits the nearest is taken. -/

namespace SecretRefs.Decimal

/-- The number `digits * 10 ^ exponent`. -/
structure Expansion where
  digits : Nat
  exponent : Int
  deriving DecidableEq, Repr

/-- The interval of the reals that round to a positive double, in quarters of its last place. -/
structure Rounding where
  low : Nat
  value : Nat
  high : Nat
  /-- Whether the ends round to the double as well. -/
  closed : Bool
  /-- The power of two of a quarter. -/
  quarter : Int

def Rounding.ofBinary (b : Binary) : Rounding where
  low := 4 * b.mantissa - if b.mantissa = pow2 52 ∧ leastExponent < b.exponent then 1 else 2
  value := 4 * b.mantissa
  high := 4 * b.mantissa + 2
  closed := b.mantissa % 2 == 0
  quarter := b.exponent - 2

/-- The nearest number on the grid of multiples of `10 ^ grid` that reads back, if there is one. -/
def Rounding.onGrid? (r : Rounding) (grid : Int) : Option Nat :=
  let unit := pow10 grid.toNat * pow2 (-r.quarter).toNat
  let scale := pow2 r.quarter.toNat * pow10 (-grid).toNat
  let readsBack (n : Nat) : Bool :=
    if r.closed then r.low * scale ≤ n * unit && n * unit ≤ r.high * scale
    else r.low * scale < n * unit && n * unit < r.high * scale
  let below := r.value * scale / unit
  let nearer := roundDiv (r.value * scale) unit
  let farther := if nearer = below then below + 1 else below
  [nearer, farther].find? readsBack

/-- The power of ten of the first digit of a positive double. -/
def firstDigitExponent (b : Binary) : Int :=
  let estimate : Int := ((b.mantissa.log2 : Int) + b.exponent) * 30103 / 100000
  let reaches (e : Int) : Bool :=
    pow2 (-b.exponent).toNat * pow10 e.toNat ≤ b.mantissa * pow2 b.exponent.toNat * pow10 (-e).toNat
  if reaches (estimate + 1) then estimate + 1
  else if reaches estimate then estimate
  else estimate - 1

/-- Moves the zeros at the end of the digits into the exponent; a double has no more than the given
number of them. -/
def Expansion.withoutZeros : (bound : Nat) → Expansion → Expansion
  | 0, d => d
  | bound + 1, d =>
    if d.digits % 10 = 0 ∧ d.digits ≠ 0 then
      Expansion.withoutZeros bound ⟨d.digits / 10, d.exponent + 1⟩
    else d

/-- The shortest decimal of a positive double. Seventeen digits always read back. -/
def shortest (b : Binary) : Expansion :=
  let rounding := Rounding.ofBinary b
  let first := firstDigitExponent b
  let candidates := (List.range 17).filterMap fun (n : Nat) =>
    let grid := first - n
    (rounding.onGrid? grid).map fun digits => (⟨digits, grid⟩ : Expansion)
  ((candidates.head?.getD ⟨0, 0⟩).withoutZeros 20)

/-- How a document format writes doubles. -/
structure Notation where
  /-- What stands before the digits of a positive power of ten. -/
  positiveMark : String
  infinity : String
  notANumber : String

private def zeros (n : Nat) : String := String.ofList (List.replicate n '0')

/-- The text of a positive decimal: positional while the power of ten of the first digit is between
-5 and 15, and with a power of ten otherwise. -/
def Notation.decimal (n : Notation) (d : Expansion) : String :=
  let digits := Nat.toDigits 10 d.digits
  let first : Int := d.exponent + digits.length - 1
  if -5 ≤ first ∧ first ≤ 15 then
    if 0 ≤ d.exponent then String.ofList digits ++ zeros d.exponent.toNat ++ ".0"
    else if 0 ≤ first then
      let whole := first.toNat + 1
      String.ofList (digits.take whole) ++ "." ++ String.ofList (digits.drop whole)
    else "0." ++ zeros (-first - 1).toNat ++ String.ofList digits
  else
    let rest := digits.drop 1
    let mantissa := String.ofList (digits.take 1) ++
      if rest.isEmpty then "" else "." ++ String.ofList rest
    let power :=
      if first < 0 then "-" ++ toString (-first).toNat else n.positiveMark ++ toString first.toNat
    mantissa ++ "e" ++ power

/-- The text of a double. -/
def Notation.render (n : Notation) (x : Float) : String :=
  if x.isNaN then n.notANumber
  else
    let negative := pow2 63 ≤ x.toBits.toNat
    let magnitude :=
      if x.isInf then n.infinity
      else
        let b := Binary.ofFloat x
        if b.mantissa = 0 then "0.0" else n.decimal (shortest b)
    if negative then "-" ++ magnitude else magnitude

end SecretRefs.Decimal
