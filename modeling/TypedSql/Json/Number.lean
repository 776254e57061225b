import TypedSql.Decimal.Shortest
import TypedSql.Json.Syntax

/-!
The value of a JSON number. An integer that fits sixty-four bits, signed or not, is kept exactly;
every other number becomes a double.

The double is read from at most sixty-four bits of leading digits and a power of ten. Digits beyond
them do not count, except that each one before the point raises the power. A number too large for a
double has no value.
-/

namespace TypedSql.Json

inductive Number where
  | natural (value : Nat)
  | negative (value : Nat)
  | double (value : Float)

/-- One more than the largest significand. -/
def significandLimit : Nat := UInt64.size

/-- One more than the largest power that is read. -/
def exponentLimit : Nat := 0x80000000

/-- Digits read as far as they stay below a limit, and the digits from the first that does not. -/
def takeDigits (limit value : Nat) : List Nat → Nat × List Nat
  | [] => (value, [])
  | d :: rest =>
    if 10 * value + d < limit then takeDigits limit (10 * value + d) rest else (value, d :: rest)

/-- The double `significand * 10 ^ exponent`, unless it is too large. A power beyond the largest
double is divided out in steps. -/
def scale? (steps : Nat) (value : Float) (exponent : Int) : Option Float :=
  if exponent.natAbs ≤ 308 then
    let power := Float.ofScientific 1 false exponent.natAbs
    if 0 ≤ exponent then
      if (value * power).isInf then none else some (value * power)
    else some (value / power)
  else if value == 0 then some value
  else if 0 ≤ exponent then none
  else
    match steps with
    | 0 => some 0
    | steps + 1 => scale? steps (value / Float.ofScientific 1 false 308) (exponent + 308)

/-- Steps after which every value has become zero. -/
def scaleSteps : Nat := 8

def double? (negative : Bool) (significand : Nat) (exponent : Int) : Option Number :=
  (scale? scaleSteps significand.toUInt64.toFloat exponent).map fun value =>
    .double (if negative then -value else value)

/-- The value of a numeral with a point or an exponent, or with too many digits. -/
def Numeral.double? (n : Numeral) : Option Number :=
  let (whole, beyond) := takeDigits significandLimit 0 n.whole
  let (significand, ignored) := takeDigits significandLimit whole n.fraction
  let power : Int := beyond.length - (n.fraction.length - ignored.length : Nat)
  match n.exponent with
  | none => Json.double? n.negative significand power
  | some (down, digits) =>
    match takeDigits exponentLimit 0 digits with
    | (exponent, []) =>
      Json.double? n.negative significand (if down then power - exponent else power + exponent)
    | _ =>
      if significand ≠ 0 ∧ ¬ down then none
      else some (.double (if n.negative then -0.0 else 0.0))

def Numeral.value? (n : Numeral) : Option Number :=
  if n.fraction = [] ∧ n.exponent = none then
    match takeDigits significandLimit 0 n.whole with
    | (value, []) =>
      if ¬ n.negative then some (.natural value)
      else if 1 ≤ value ∧ value ≤ 0x8000000000000000 then some (.negative value)
      else Json.double? true value 0
    | _ => n.double?
  else n.double?

def Numeral.ofNat (n : Nat) : Numeral :=
  ⟨false, (Nat.toDigits 10 n).map fun c => c.toNat - 48, [], none⟩

/-- The natural number that a numeral is, if it is below a limit and written without sign, point
and exponent. -/
def Numeral.below? (limit : Nat) (n : Numeral) : Option Nat :=
  if n.negative ∨ n.fraction ≠ [] ∨ n.exponent ≠ none then none
  else
    match takeDigits limit 0 n.whole with
    | (value, []) => some value
    | _ => none

/-- A decimal with leading digit at the power `lead`, as JSON shows it: positional while `lead` is
from -5 to 15, and always with a point there; otherwise with a signed exponent. -/
def decimalText (d : Decimal) : List Char :=
  let digits := Nat.toDigits 10 d.digits
  let lead : Int := d.exponent + digits.length - 1
  if 0 ≤ lead ∧ lead ≤ 15 then
    if 0 ≤ d.exponent then digits ++ (List.replicate d.exponent.toNat '0' ++ ['.', '0'])
    else digits.take (lead.toNat + 1) ++ ('.' :: digits.drop (lead.toNat + 1))
  else if -5 ≤ lead ∧ lead < 0 then
    '0' :: '.' :: (List.replicate ((-lead).toNat - 1) '0' ++ digits)
  else
    let mantissa := match digits with
      | [d] => [d]
      | d :: rest => d :: '.' :: rest
      | [] => []
    let sign := if lead < 0 then '-' else '+'
    mantissa ++ ('e' :: sign :: Nat.toDigits 10 lead.natAbs)

/-- A double as JSON shows it: the shortest digits that read back, and zero as `0.0`. -/
def doubleText (value : Float) : List Char :=
  let sign := if 0x8000000000000000 ≤ value.toBits then ['-'] else []
  match (BinaryNumber.ofDouble? value).bind BinaryNumber.shortest? with
  | some d => sign ++ decimalText d
  | none => sign ++ ['0', '.', '0']

def Number.text : Number → List Char
  | .natural n => Nat.toDigits 10 n
  | .negative n => '-' :: Nat.toDigits 10 n
  | .double x => doubleText x

end TypedSql.Json
