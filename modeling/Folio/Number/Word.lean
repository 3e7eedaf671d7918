/-
Integers of so many bits.

A word of `k` bits holds the integers from zero up to `twoPow k`; a signed one those from
minus half of it up to half of it.  What does not fit is refused, brought to the nearest
end, or taken modulo the number of words, as the operation asks.
-/
namespace Folio.Number

def twoPow (k : Nat) : Nat := 1 <<< k

def fitsSigned (bits : Nat) (n : Int) : Bool :=
  -(twoPow (bits - 1) : Int) ≤ n && n < (twoPow (bits - 1) : Int)

def fitsUnsigned (bits : Nat) (n : Int) : Bool := 0 ≤ n && n < (twoPow bits : Int)

def clampSigned (bits : Nat) (n : Int) : Int :=
  max (-(twoPow (bits - 1) : Int)) (min n ((twoPow (bits - 1) : Int) - 1))

def wrapSigned (bits : Nat) (n : Int) : Int := Int.bmod n (twoPow bits)

end Folio.Number
