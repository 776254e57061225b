/-!
The shortest decimal that denotes a binary floating point number: of all decimals that round to the
number, those with the fewest digits, and of these the one nearest to the number. A tie between two
neighbours goes to the even digit.

All arithmetic is exact. A number is `significand * 2 ^ exponent`; the decimals that round to it
fill the interval between the midpoints to its two neighbours, ends included when the significand is
even.
-/

namespace TypedSql

/-- A positive number in binary, `significand * 2 ^ exponent`. Where it is `narrowBelow`, the next
smaller number is only half as far away as the next larger one. -/
structure BinaryNumber where
  significand : Nat
  exponent : Int
  narrowBelow : Bool
deriving DecidableEq

structure Decimal where
  digits : Nat
  exponent : Int
deriving DecidableEq

/-- The factor for quarters of the last place of `x` on the grid of `10 ^ e`, as a fraction. -/
def BinaryNumber.onGrid (x : BinaryNumber) (e : Int) : Nat × Nat :=
  let p := x.exponent - 2
  (Nat.pow 2 p.toNat * Nat.pow 10 (-e).toNat, Nat.pow 2 (-p).toNat * Nat.pow 10 e.toNat)

/-- Whether `d * 10 ^ e` rounds to `x`. -/
def BinaryNumber.has (x : BinaryNumber) (e : Int) (d : Nat) : Bool :=
  let (scale, unit) := x.onGrid e
  let low := (4 * x.significand - (if x.narrowBelow then 1 else 2)) * scale
  let high := (4 * x.significand + 2) * scale
  if x.significand % 2 = 0 then low ≤ d * unit && d * unit ≤ high
  else low < d * unit && d * unit < high

/-- The multiple of `10 ^ e` that rounds to `x` and is nearest to it, if one does. -/
def BinaryNumber.nearestOn? (x : BinaryNumber) (e : Int) : Option Decimal :=
  let (scale, unit) := x.onGrid e
  let value := 4 * x.significand * scale
  let below := value / unit
  let above := below + 1
  match x.has e below, x.has e above with
  | false, false => none
  | true, false => some ⟨below, e⟩
  | false, true => some ⟨above, e⟩
  | true, true =>
    let down := value - below * unit
    let up := above * unit - value
    if down < up then some ⟨below, e⟩
    else if up < down then some ⟨above, e⟩
    else if below % 2 = 0 then some ⟨below, e⟩
    else some ⟨above, e⟩

/-- The largest exponent of a decimal that a double rounds from. -/
def Decimal.largestExponent : Int := 309

/-- Grids from the coarsest to one finer than the last place of every double. -/
def Decimal.grids : List Int :=
  (List.range 720).map fun (i : Nat) => largestExponent - (i : Int)

/-- The shortest decimal: the nearest multiple on the first grid that has one. -/
def BinaryNumber.shortest? (x : BinaryNumber) : Option Decimal :=
  Decimal.grids.findSome? x.nearestOn?

/-- The size of a finite double that is not zero, in binary. -/
def BinaryNumber.ofDouble? (x : Float) : Option BinaryNumber :=
  let bits : Nat := x.toBits.toNat
  let biased : Nat := bits / 0x10000000000000 % 0x800
  let fraction : Nat := bits % 0x10000000000000
  if biased = 2047 then none
  else if biased = 0 then
    if fraction = 0 then none else some ⟨fraction, -1074, false⟩
  else some ⟨0x10000000000000 + fraction, (biased : Int) - 1075, fraction == 0 && 1 < biased⟩

example : (BinaryNumber.mk 4503599627370496 (-52) true).shortest? = some ⟨1, 0⟩ := by decide +kernel
example : (BinaryNumber.mk 1 (-1074) false).shortest? = some ⟨5, -324⟩ := by decide +kernel
example : (BinaryNumber.mk 5404319552844595 (-54) false).shortest? = some ⟨3, -1⟩ := by
  decide +kernel

end TypedSql
