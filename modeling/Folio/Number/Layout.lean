/-
How numbers are written and read.

A float is written with its shortest digits.  On its own it is always written in full,
`100000000000000000000.0`; as part of a list, a map or a document very large and very
small numbers take an exponent, `1e20`.
-/
import Folio.Number.Shortest
import Folio.Text.Letter

namespace Folio.Number

def natText (n : Nat) : List Char := Nat.toDigits 10 n

def intText (n : Int) : String :=
  if n < 0 then String.ofList ('-' :: natText n.natAbs) else String.ofList (natText n.natAbs)

namespace Decimal

/-- All digits written out, with at least one on each side of the point. -/
def positional (d : Decimal) : List Char :=
  let ds := natText d.digits
  if 0 ≤ d.exponent then
    ds ++ List.replicate (if d.digits = 0 then 0 else d.exponent.toNat) '0' ++ ['.', '0']
  else
    let places := (-d.exponent).toNat
    if places < ds.length then
      ds.take (ds.length - places) ++ '.' :: ds.drop (ds.length - places)
    else
      ['0', '.'] ++ List.replicate (places - ds.length) '0' ++ ds

def magnitude (d : Decimal) : Int :=
  d.exponent + ((natText d.digits).length : Int) - 1

/-- One digit before the point, and the power of ten after an `e`. -/
def scientific (d : Decimal) : List Char :=
  let mantissa :=
    match natText d.digits with
    | [] => []
    | [c] => [c]
    | c :: rest => c :: '.' :: rest
  mantissa ++ 'e' :: (intText d.magnitude).toList

end Decimal

def floatTextWith (layout : Decimal → List Char) (x : Float) : String :=
  match Binary.ofFloat? x with
  | some b =>
    let body := layout b.shortest
    String.ofList (if b.negative then '-' :: body else body)
  | none => if x.isNaN then "NaN" else if x < 0 then "-inf" else "inf"

def floatText (x : Float) : String :=
  floatTextWith Decimal.positional x

/-- A float with an exponent below `10 ^ -5` and from `10 ^ 16` on. -/
def floatCompactText (x : Float) : String :=
  floatTextWith (fun d =>
    if d.digits ≠ 0 ∧ (d.magnitude < -4 ∨ 16 ≤ d.magnitude) then d.scientific
    else d.positional) x

def floatOfDecimal (negative : Bool) (digits : Nat) (exponent : Int) : Float :=
  let places : Int := exponent + (natText digits).length
  let x :=
    if digits = 0 ∨ places < -400 then (0 : Float)
    else if 400 < places then (1 : Float) / 0
    else Float.ofScientific digits (exponent < 0) exponent.natAbs
  if negative then -x else x

def spanDigits (cs : List Char) : List Char × List Char :=
  (cs.takeWhile Text.isDigit, cs.dropWhile Text.isDigit)

/-- The number that a run of digits spells; zero if there is none. -/
def natOfDigits (cs : List Char) : Nat :=
  cs.foldl (fun n c => n * 10 + (c.toNat - '0'.toNat)) 0

/-- A decimal number in any of its usual spellings, without a sign. -/
def readUnsignedFloat? (negative : Bool) (cs : List Char) : Option Float :=
  let (whole, rest) := spanDigits cs
  let (fraction, rest) :=
    match rest with
    | '.' :: rest => spanDigits rest
    | _ => ([], rest)
  if whole.isEmpty && fraction.isEmpty then
    match String.ofList (cs.map Char.toLower) with
    | "inf" | "infinity" => some (floatOfDecimal negative 1 1000)
    | "nan" => some ((0 : Float) / 0)
    | _ => none
  else
    let digits := natOfDigits (whole ++ fraction)
    let shift : Int := -(fraction.length : Int)
    match rest with
    | [] => some (floatOfDecimal negative digits shift)
    | e :: rest =>
      if e = 'e' || e = 'E' then
        let (down, rest) :=
          match rest with
          | '-' :: rest => (true, rest)
          | '+' :: rest => (false, rest)
          | _ => (false, rest)
        let (power, rest) := spanDigits rest
        if power.isEmpty || !rest.isEmpty then none
        else
          let power : Int := natOfDigits power
          some (floatOfDecimal negative digits (shift + if down then -power else power))
      else none

def readFloat? : List Char → Option Float
  | '-' :: cs => readUnsignedFloat? true cs
  | '+' :: cs => readUnsignedFloat? false cs
  | cs => readUnsignedFloat? false cs

/-- A whole number of the given radix with an optional sign. -/
def readInt? (radix : Nat) : List Char → Option Int
  | '-' :: cs => (Text.natOfDigits? radix cs).map fun n => -(n : Int)
  | '+' :: cs => (Text.natOfDigits? radix cs).map fun n => (n : Int)
  | cs => (Text.natOfDigits? radix cs).map fun n => (n : Int)

end Folio.Number
