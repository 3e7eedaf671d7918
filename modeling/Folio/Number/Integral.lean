/-
Whole numbers and floats side by side.

A float is compared with a whole number by its exact value, and turned into one by cutting
off its fraction.  Among themselves floats have a total order in which `-0.0` comes before
`0.0` and the NaNs come last.
-/
import Folio.Number.Layout

namespace Folio.Number

def floatOfInt (n : Int) : Float :=
  floatOfDecimal (n < 0) n.natAbs 0

def floatIsInt (x : Float) (n : Int) : Bool :=
  match Binary.ofFloat? x with
  | none => false
  | some b =>
    let m : Int := if b.negative then -(b.mantissa : Int) else b.mantissa
    if 0 ≤ b.exponent then m * (twoPow b.exponent.toNat : Int) = n
    else m = n * (twoPow (-b.exponent).toNat : Int)

/-- The integer part of a float; zero if there is none. -/
def wholePart (x : Float) : Int :=
  match Binary.ofFloat? x with
  | none => 0
  | some b =>
    let m : Nat :=
      if 0 ≤ b.exponent then b.mantissa * twoPow b.exponent.toNat
      else b.mantissa / twoPow (-b.exponent).toNat
    if b.negative then -(m : Int) else m

/-- The integer part of a float, within a signed 128-bit word; zero for NaN. -/
def truncate (x : Float) : Int :=
  if x.isInf then (if x < 0 then -(twoPow 127 : Int) else (twoPow 127 : Int) - 1)
  else clampSigned 128 (wholePart x)

/-- The signed 64-bit integer that a float is nearest to, if it has no fraction.  Two to the
63rd is taken for the integer just below, of which it is the nearest float. -/
def integral? (x : Float) : Option Int :=
  let n := clampSigned 64 (truncate x)
  if floatOfInt n == x then some n else none

/-- A number that grows with the float in the total order of floats. -/
def orderKey (x : Float) : Int :=
  let bits : Int := x.toBits.toNat
  let half : Int := twoPow 63
  if bits < half then bits else half - bits - 1

/-- The remainder of a division whose quotient is cut off toward zero. -/
def remainder (x y : Float) : Float :=
  match Binary.ofFloat? x, Binary.ofFloat? y with
  | some a, some b =>
    if b.mantissa = 0 then (0 : Float) / 0
    else
      let e := min a.exponent b.exponent
      let r := a.mantissa * twoPow (a.exponent - e).toNat %
        (b.mantissa * twoPow (b.exponent - e).toNat)
      let r := (Float.ofNat r).scaleB e
      if a.negative then -r else r
  | some _, none => if y.isNaN then y else x
  | none, _ => (0 : Float) / 0

def dropFraction (x : Float) : Float :=
  if x < 0 then x.ceil else x.floor

/-- The quotient of a division whose remainder is not negative. -/
def quotient (x y : Float) : Float :=
  let q := dropFraction (x / y)
  if remainder x y < 0 then (if 0 < y then q - 1 else q + 1) else q

end Folio.Number
