/-
The shortest decimal that reads back as a given binary number.

A finite float is a whole number of units of a power of two.  Every real number nearer to
it than to its neighbours reads back as it; these numbers form an interval, whose ends
belong to it exactly when the mantissa is even.  For one digit, two digits, and so on, the
two decimals next to the number are tested against the interval, and the first that lies
in it is the answer, the nearer one if both do.
-/
import Folio.Number.Word

namespace Folio.Number

/-- A finite binary number: `mantissa * 2 ^ exponent`. -/
structure Binary where
  negative : Bool
  mantissa : Nat
  exponent : Int
  deriving DecidableEq, Repr

/-- A decimal number without sign: `digits * 10 ^ exponent`. -/
structure Decimal where
  digits : Nat
  exponent : Int
  deriving DecidableEq, Repr

def Binary.leastNormal : Nat := twoPow 52

def Binary.leastExponent : Int := -1074

/-- The sign, mantissa and exponent of a float that is a number. -/
def Binary.ofFloat? (x : Float) : Option Binary :=
  let bits := x.toBits.toNat
  let negative := bits / twoPow 63 = 1
  let field : Nat := bits / leastNormal % twoPow 11
  let fraction : Nat := bits % leastNormal
  if field = 2047 then none
  else if field = 0 then some ⟨negative, fraction, leastExponent⟩
  else some ⟨negative, leastNormal + fraction, (field : Int) - 1075⟩

namespace Binary

def quarters (b : Binary) : Nat := 4 * b.mantissa

/-- How many quarters below the number still read back as it. -/
def reachBelow (b : Binary) : Nat :=
  if b.mantissa = leastNormal ∧ leastExponent < b.exponent then 1 else 2

/-- A decimal place `10 ^ p` and a quarter, measured in a unit that divides both. -/
def measures (b : Binary) (p : Int) : Nat × Nat :=
  let q := b.exponent - 2
  (Nat.pow 10 p.toNat * twoPow (-q).toNat, twoPow q.toNat * Nat.pow 10 (-p).toNat)

def covers (b : Binary) (d : Nat) (p : Int) : Bool :=
  let (place, quarter) := b.measures p
  let low := (b.quarters - b.reachBelow) * quarter
  let high := (b.quarters + 2) * quarter
  let x := d * place
  if b.mantissa % 2 = 0 then low ≤ x && x ≤ high else low < x && x < high

/-- The nearest decimal with last place `10 ^ p` that reads back as the number. -/
def atPlace? (b : Binary) (p : Int) : Option Decimal :=
  let (place, quarter) := b.measures p
  let v := b.quarters * quarter
  let below := v / place
  match b.covers below p, b.covers (below + 1) p with
  | true, true =>
    if v - below * place ≤ (below + 1) * place - v then some ⟨below, p⟩ else some ⟨below + 1, p⟩
  | true, false => some ⟨below, p⟩
  | false, true => some ⟨below + 1, p⟩
  | false, false => none

def atLeast (b : Binary) (p : Int) : Bool :=
  let (place, quarter) := b.measures p
  place ≤ b.quarters * quarter

/-- The decimal place of the leading digit, for a number other than zero. -/
def leadingPlace (b : Binary) : Int :=
  let guess := ((Nat.log2 b.mantissa : Int) + b.exponent) * 1233 / 4096
  if b.atLeast (guess + 1) then guess + 1
  else if b.atLeast guess then guess
  else guess - 1

end Binary

def Decimal.trim : Nat → Decimal → Decimal
  | 0, d => d
  | n + 1, d =>
    if d.digits ≠ 0 ∧ d.digits % 10 = 0 then trim n ⟨d.digits / 10, d.exponent + 1⟩ else d

/-- The decimal with the fewest digits that reads back as the number. -/
def Binary.shortest (b : Binary) : Decimal :=
  if b.mantissa = 0 then ⟨0, 0⟩
  else
    let top := b.leadingPlace
    match (List.range 18).findSome? fun (n : Nat) => b.atPlace? (top - (n : Int)) with
    | some d => d.trim 20
    | none => ⟨b.mantissa, 0⟩

end Folio.Number
