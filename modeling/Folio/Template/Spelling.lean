/-
How string and number literals are spelled.

Inside a string literal a backslash begins an escape: a letter for a control character, a
code unit in hexadecimal, or a character below 256 in hexadecimal or octal.  A number
literal may have a radix and may hold underscores between its digits; a point that an
attribute's name follows is not part of it.
-/
import Folio.Number.Layout

namespace Folio.Template

/-! ### Strings -/

/-- The number that the first `count` characters spell in hexadecimal, and what follows. -/
def hexCode? (count : Nat) (cs : List Char) : Option (Nat × List Char) :=
  if cs.length < count then none else (Text.unsignedOfChars? 16 (cs.take count)).map (·, cs.drop count)

def isOctal (c : Char) : Bool := '0' ≤ c && c ≤ '7'

/-- The character that the octal digits at the front spell, three at most, and what follows. -/
def octalChar? (cs : List Char) : Option (Char × List Char) :=
  let digits := (cs.take 3).takeWhile isOctal
  match Text.natOfDigits? 8 digits with
  | some n => if n < 256 then some (Char.ofNat n, cs.drop digits.length) else none
  | none => none

/-- The characters that the inside of a string literal stands for.  A backslash before a
character without a meaning of its own stands for itself. -/
def unescape? : Nat → List Char → Option (List Char)
  | 0, _ => none
  | _ + 1, [] => some []
  | fuel + 1, '\\' :: 'u' :: rest => do
    let (hi, rest) ← hexCode? 4 rest
    if 0xD800 ≤ hi && hi < 0xDC00 then
      match rest with
      | '\\' :: 'u' :: rest =>
        let (lo, rest) ← hexCode? 4 rest
        if 0xDC00 ≤ lo && lo < 0xE000 then
          (unescape? fuel rest).map
            (Char.ofNat (0x10000 + (hi - 0xD800) * 0x400 + (lo - 0xDC00)) :: ·)
        else none
      | _ => none
    else if 0xDC00 ≤ hi && hi < 0xE000 then none
    else (unescape? fuel rest).map (Char.ofNat hi :: ·)
  | fuel + 1, '\\' :: 'x' :: rest => do
    let (n, rest) ← hexCode? 2 rest
    (unescape? fuel rest).map (Char.ofNat n :: ·)
  | _ + 1, ['\\'] => none
  | fuel + 1, '\\' :: c :: rest =>
    if isOctal c then do
      let (c, rest) ← octalChar? (c :: rest)
      (unescape? fuel rest).map (c :: ·)
    else
      let plain : List Char :=
        match c with
        | '"' | '\\' | '/' | '\'' => [c]
        | 'b' => ['\x08']
        | 'f' => ['\x0c']
        | 'n' => ['\n']
        | 'r' => ['\r']
        | 't' => ['\t']
        | _ => ['\\', c]
      (unescape? fuel rest).map (plain ++ ·)
  | fuel + 1, c :: rest => (unescape? fuel rest).map (c :: ·)

/-- The inside of a string literal after its opening quote, and what follows its closing
quote; a backslash keeps the character after it from closing the literal. -/
def splitAtQuote? (quote : Char) : List Char → Option (List Char × List Char)
  | [] => none
  | '\\' :: c :: rest => (splitAtQuote? quote rest).map fun (s, more) => ('\\' :: c :: s, more)
  | c :: rest =>
    if c = quote then some ([], rest)
    else (splitAtQuote? quote rest).map fun (s, more) => (c :: s, more)

/-! ### Numbers -/

/-- Which part of a number literal is being read. -/
inductive NumberPart where
  | whole
  | radix
  | fraction
  | exponent
  | exponentDigits
  deriving DecidableEq, Inhabited, Repr

/-- Whether a text begins with the digits of an exponent, which may have a sign. -/
def beginsExponent : List Char → Bool
  | c :: d :: _ => Text.isDigit c || ((c = '+' || c = '-') && Text.isDigit d)
  | [c] => Text.isDigit c
  | [] => false

/-- Whether what follows a point is the name of an attribute. -/
def beginsName : List Char → Bool
  | [] => false
  | c :: rest => Text.isWordStart c && !((c = 'e' || c = 'E') && beginsExponent rest)

/-- The characters of a number literal and the part it ends in, and what follows it. -/
def spanNumber (radix : Nat) : NumberPart → List Char → List Char × NumberPart × List Char
  | part, [] => ([], part, [])
  | part, c :: rest =>
    let next? : Option NumberPart :=
      if c = '.' && part = .whole && !beginsName rest then some .fraction
      else if (c = 'e' || c = 'E') && (part = .whole || part = .fraction) then some .exponent
      else if (c = '+' || c = '-') && part = .exponent then some .exponentDigits
      else if Text.isDigit c then some (if part = .exponent then .exponentDigits else part)
      else if part = .radix && radix = 16 && (Text.digitValue? 16 c).isSome then some part
      else if c = '_' then some part
      else none
    match next? with
    | some part =>
      let (cs, part, rest) := spanNumber radix part rest
      (c :: cs, part, rest)
    | none => ([], part, c :: rest)

/-- The radix that a number literal names, and the digits after it. -/
def radixOf : List Char → Nat × List Char
  | '0' :: c :: rest =>
    if c = 'b' || c = 'B' then (2, rest)
    else if c = 'o' || c = 'O' then (8, rest)
    else if c = 'x' || c = 'X' then (16, rest)
    else (10, '0' :: c :: rest)
  | cs => (10, cs)

/-- A number literal. -/
inductive Numeral where
  | int (n : Nat)
  | float (x : Float)
  deriving Inhabited

/-- The largest integer literal. -/
def largestInt : Nat := Number.twoPow 128 - 1

/-- The integer that some digits spell, if it is not too large. -/
def readDigits (radix : Nat) (digits : List Char) : Option Numeral :=
  match Text.natOfDigits? radix digits with
  | some n => if n ≤ largestInt then some (.int n) else none
  | none => none

/-- The number literal at the front of a text, if it is well formed, and what follows. -/
def readNumeral (cs : List Char) : Option Numeral × List Char :=
  let (radix, digits) := radixOf cs
  let (body, part, rest) := spanNumber radix (if radix = 10 then .whole else .radix) digits
  let plain := body.filter (· ≠ '_')
  let numeral? : Option Numeral :=
    if body.getLast? = some '_' then none
    else if part = .whole || part = .radix then readDigits radix plain
    else (Number.readUnsignedFloat? false plain).map .float
  (numeral?, rest)

/-- The digits at the front of a text as an integer, and what follows.  Behind a point only
these are read, so that points keep separating indices. -/
def readPlace (cs : List Char) : Option Numeral × List Char :=
  (readDigits 10 (cs.takeWhile Text.isDigit), cs.dropWhile Text.isDigit)

end Folio.Template
