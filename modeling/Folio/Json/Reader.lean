/-
JSON text as values.

A number without a point or an exponent that fits a 64-bit word, signed or not, is a whole
number; every other number, and `-0`, is a float.  A float is the leading digits of the
number, as many as fit a 64-bit word, times a power of ten, which may miss the float nearest
to the number by a little.  Of several fields of one name in an
object the last one counts.  The reader recurses on fuel, of which every nested value takes
one; a text cannot nest deeper than it is long.
-/
import Folio.Json.Basic

namespace Folio.Json

/-- The rest of a text after the blanks that JSON allows. -/
def skipBlanks (cs : List Char) : List Char :=
  cs.dropWhile fun c => c = ' ' || c = '\t' || c = '\n' || c = '\r'

/-- The code unit that four hexadecimal digits spell. -/
def readUnit? : List Char → Option (Nat × List Char)
  | a :: b :: c :: d :: rest => (Text.natOfDigits? 16 [a, b, c, d]).map (·, rest)
  | _ => none

/-- The rest of a string literal, after its opening quote; `acc` holds the characters
before it, the last one first. -/
def readString? : Nat → List Char → List Char → Option (String × List Char)
  | 0, _, _ => none
  | fuel + 1, acc, cs =>
    match cs with
    | [] => none
    | '"' :: rest => some (String.ofList acc.reverse, rest)
    | '\\' :: 'u' :: rest => do
      let (hi, rest) ← readUnit? rest
      if 0xD800 ≤ hi && hi < 0xDC00 then
        match rest with
        | '\\' :: 'u' :: rest => do
          let (lo, rest) ← readUnit? rest
          if 0xDC00 ≤ lo && lo < 0xE000 then
            readString? fuel (Char.ofNat (0x10000 + (hi - 0xD800) * 0x400 + (lo - 0xDC00)) :: acc) rest
          else none
        | _ => none
      else if 0xDC00 ≤ hi && hi < 0xE000 then none
      else readString? fuel (Char.ofNat hi :: acc) rest
    | '\\' :: c :: rest =>
      match c with
      | '"' | '\\' | '/' => readString? fuel (c :: acc) rest
      | 'b' => readString? fuel ('\x08' :: acc) rest
      | 'f' => readString? fuel ('\x0c' :: acc) rest
      | 'n' => readString? fuel ('\n' :: acc) rest
      | 'r' => readString? fuel ('\r' :: acc) rest
      | 't' => readString? fuel ('\t' :: acc) rest
      | _ => none
    | c :: rest => if c.toNat < 0x20 then none else readString? fuel (c :: acc) rest

/-- Appends digits to a number as long as it fits a 64-bit word; also the digits left over. -/
def appendDigits (n : Nat) : List Char → Nat × List Char
  | [] => (n, [])
  | c :: rest =>
    let next := n * 10 + (c.toNat - '0'.toNat)
    if Number.fitsUnsigned 64 next then appendDigits next rest else (n, c :: rest)

def tenTo (n : Nat) : Float := Number.floatOfDecimal false 1 n

/-- A float times a power of ten, if it does not grow out of range.  A power too small for a
float is taken in several steps, of which `fuel` bounds the number. -/
def timesTenTo? : Nat → Int → Float → Option Float
  | 0, _, x => some x
  | fuel + 1, power, x =>
    if power.natAbs ≤ 308 then
      if power < 0 then some (x / tenTo power.natAbs)
      else
        let y := x * tenTo power.natAbs
        if y.isInf then none else some y
    else if x == 0 then some x
    else if 0 < power then none
    else timesTenTo? fuel (power + 308) (x / tenTo 308)

/-- An exponent behind its letter, and the rest of the text. -/
def readExponent? (cs : List Char) : Option (Int × List Char) :=
  let (down, cs) :=
    match cs with
    | '-' :: cs => (true, cs)
    | '+' :: cs => (false, cs)
    | _ => (false, cs)
  let (digits, rest) := Number.spanDigits cs
  let n : Int := Number.natOfDigits digits
  if digits.isEmpty then none else some (if down then -n else n, rest)

def readNumber? (cs : List Char) : Option (Json × List Char) := do
  let (negative, cs) :=
    match cs with
    | '-' :: cs => (true, cs)
    | _ => (false, cs)
  let (whole, cs) := Number.spanDigits cs
  if whole.isEmpty then none
  let (fraction, cs) ←
    match cs with
    | '.' :: cs =>
      let (fraction, cs) := Number.spanDigits cs
      if fraction.isEmpty then none else pure (some fraction, cs)
    | cs => pure (none, cs)
  let (power, cs) ←
    match cs with
    | 'e' :: cs | 'E' :: cs => (readExponent? cs).map fun (n, cs) => (some n, cs)
    | cs => pure (none, cs)
  let n : Int := if negative then -(Number.natOfDigits whole : Int) else Number.natOfDigits whole
  let isWhole := fraction.isNone && power.isNone && !(negative && n = 0)
  if isWhole && (Number.fitsSigned 64 n || Number.fitsUnsigned 64 n) then return (.int n, cs)
  else
    let (leading, left) := appendDigits 0 whole
    let (leading, unread) := appendDigits leading (fraction.getD [])
    let places : Int := ((fraction.getD []).length - unread.length : Nat)
    let x ← timesTenTo? 8 (left.length - places + power.getD 0) (Float.ofNat leading)
    return (.float (if negative then -x else x), cs)

mutual

def readValue? : Nat → List Char → Option (Json × List Char)
  | 0, _ => none
  | fuel + 1, cs =>
    match skipBlanks cs with
    | 'n' :: 'u' :: 'l' :: 'l' :: rest => some (.null, rest)
    | 't' :: 'r' :: 'u' :: 'e' :: rest => some (.bool true, rest)
    | 'f' :: 'a' :: 'l' :: 's' :: 'e' :: rest => some (.bool false, rest)
    | '"' :: rest => (readString? (rest.length + 1) [] rest).map fun (s, rest) => (.str s, rest)
    | '[' :: rest =>
      match skipBlanks rest with
      | ']' :: rest => some (.arr [], rest)
      | rest => readItems? fuel [] rest
    | '\x7b' :: rest =>
      match skipBlanks rest with
      | '\x7d' :: rest => some (.obj [], rest)
      | rest => readFields? fuel [] rest
    | cs => readNumber? cs

/-- The items of a list from one of them on; `acc` holds those before it, the last first. -/
def readItems? : Nat → List Json → List Char → Option (Json × List Char)
  | 0, _, _ => none
  | fuel + 1, acc, cs => do
    let (item, rest) ← readValue? fuel cs
    match skipBlanks rest with
    | ',' :: rest => readItems? fuel (item :: acc) rest
    | ']' :: rest => some (.arr (item :: acc).reverse, rest)
    | _ => none

def readFields? : Nat → List (String × Json) → List Char → Option (Json × List Char)
  | 0, _, _ => none
  | fuel + 1, acc, cs =>
    match skipBlanks cs with
    | '"' :: rest => do
      let (key, rest) ← readString? (rest.length + 1) [] rest
      match skipBlanks rest with
      | ':' :: rest => do
        let (value, rest) ← readValue? fuel rest
        match skipBlanks rest with
        | ',' :: rest => readFields? fuel ((key, value) :: acc) rest
        | '\x7d' :: rest => some (ofFields ((key, value) :: acc).reverse, rest)
        | _ => none
      | _ => none
    | _ => none

end

/-- The value that a text spells, with nothing but blanks after it. -/
def parse? (text : String) : Option Json := do
  let cs := text.toList
  let (value, rest) ← readValue? (cs.length + 1) cs
  if (skipBlanks rest).isEmpty then some value else none

end Folio.Json
