/-
Scalars, and what plain ones mean.

A scalar is a text that is written in one of five styles and may carry a tag.  A plain
scalar without a tag that says otherwise stands for null, a boolean, a number or, failing
that, for its text.  Digits after a leading zero are a text.
-/
import Folio.Number.Layout
import Folio.Text.Pieces

namespace Folio.Yaml

/-- How a scalar is written. -/
inductive Style where
  | plain
  | singleQuoted
  | doubleQuoted
  /-- Line by line, behind a bar. -/
  | literal
  /-- Line by line with the lines joined, behind an angle. -/
  | folded
  deriving DecidableEq, Inhabited, Repr

def standardTags : String := "tag:yaml.org,2002:"

/-- A tag.  It may be spelled so that its bytes are no text. -/
structure Tag where
  bytes : List UInt8
  deriving DecidableEq, Inhabited, Repr

namespace Tag

def ofText (s : String) : Tag := ⟨s.toUTF8.toList⟩

def text? (t : Tag) : Option String := String.fromUTF8? ⟨t.bytes.toArray⟩

/-- Whether a tag begins with an exclamation mark, as opposed to those of the standard. -/
def isLocal (t : Tag) : Bool := t.bytes.head? = some '!'.toUInt8

def null : Tag := .ofText (standardTags ++ "null")

def bool : Tag := .ofText (standardTags ++ "bool")

def int : Tag := .ofText (standardTags ++ "int")

def float : Tag := .ofText (standardTags ++ "float")

end Tag

/-- A scalar. -/
structure Scalar where
  text : String
  style : Style := .plain
  tag : Option Tag := none
  deriving DecidableEq, Inhabited, Repr

/-- What a scalar means. -/
inductive Content where
  | null
  | bool (b : Bool)
  | int (n : Int)
  | float (x : Float)
  | str (s : String)
  deriving Inhabited

/-- Whether a text spells null.  The empty text does not, though a plain scalar with an
empty text stands for null. -/
def isNullText (s : String) : Bool :=
  s = "~" || s = "null" || s = "Null" || s = "NULL"

def boolOfText? : String → Option Bool
  | "true" | "True" | "TRUE" => some true
  | "false" | "False" | "FALSE" => some false
  | _ => none

def dropSign : List Char → List Char
  | '-' :: cs => cs
  | '+' :: cs => cs
  | cs => cs

/-- Whether a text consists of digits after a leading zero, which makes it no number. -/
def isPaddedDigits (cs : List Char) : Bool :=
  match dropSign cs with
  | '0' :: c :: rest => (c :: rest).all Text.isDigit
  | _ => false

/-- The digits of a number behind the mark of its radix, and the radix. -/
def splitRadix? : List Char → Option (Nat × List Char)
  | '0' :: 'x' :: cs => some (16, cs)
  | '0' :: 'o' :: cs => some (8, cs)
  | '0' :: 'b' :: cs => some (2, cs)
  | _ => none

def natOfText? (cs : List Char) : Option Nat :=
  match splitRadix? cs with
  | some (radix, digits) => Text.natOfDigits? radix digits
  | none => Text.natOfDigits? 10 cs

/-- The whole number that a text spells.  It fits a word of 128 bits, signed or not. -/
def intOfText? (s : String) : Option Int := do
  let cs := s.toList
  if isPaddedDigits cs then none
  else
    match cs with
    | '-' :: digits => do
      let n ← natOfText? digits
      if n ≤ Number.twoPow 127 then some (-(n : Int)) else none
    | _ => do
      let n ← natOfText? (if cs.head? = some '+' then cs.tail else cs)
      if n < Number.twoPow 128 then some (n : Int) else none

def floatOfText? (s : String) : Option Float :=
  let body := if s.startsWith "+" then (s.drop 1).toString else s
  if s.startsWith "+" && (body.startsWith "+" || body.startsWith "-") then none
  else if body = ".inf" || body = ".Inf" || body = ".INF" then some ((1 : Float) / 0)
  else if s = "-.inf" || s = "-.Inf" || s = "-.INF" then some ((-1 : Float) / 0)
  else if s = ".nan" || s = ".NaN" || s = ".NAN" then some ((0 : Float) / 0)
  else
    match Number.readFloat? body.toList with
    | some x => if x.isFinite then some x else none
    | none => none

def contentOfText (s : String) : Content :=
  if s.isEmpty || isNullText s then .null
  else
    match boolOfText? s with
    | some b => .bool b
    | none =>
      match intOfText? s with
      | some n => .int n
      | none =>
        if isPaddedDigits s.toList then .str s
        else
          match floatOfText? s with
          | some x => .float x
          | none => .str s

namespace Scalar

/-- What a scalar means, or what its tag asks for if the text does not fit the tag. -/
def content (s : Scalar) : Except String Content :=
  match s.tag with
  | none => .ok (if s.style = .plain then contentOfText s.text else .str s.text)
  | some tag =>
    if tag = .bool then
      match boolOfText? s.text with
      | some b => .ok (.bool b)
      | none => .error "a boolean"
    else if tag = .int then
      match intOfText? s.text with
      | some n => .ok (.int n)
      | none => .error "an integer"
    else if tag = .float then
      match floatOfText? s.text with
      | some x => .ok (.float x)
      | none => .error "a float"
    else if tag = .null then
      if isNullText s.text then .ok .null else .error "null"
    else .ok (if tag.isLocal && s.style = .plain then contentOfText s.text else .str s.text)

end Scalar

end Folio.Yaml
