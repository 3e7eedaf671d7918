/-
The order and the equality of values.

Values of different kinds are ordered by kind, numbers by size, texts by their characters,
and collections item by item.  Equality is wider: a truth value equals the number that it
counts as, and a stream equals a list of equal items.

An integer is compared with a float as a float, if that loses nothing, and else by its exact
value.  Two integers that are both too large for an unsigned 64-bit word are taken as signed
128-bit words.
-/
import Folio.Number.Integral
import Folio.Template.Value.Basic

namespace Folio.Template.Value

def compareText (a b : String) : Ordering :=
  if a < b then .lt else if a = b then .eq else .gt

/-- The order of two floats.  The two zeros are equal. -/
def compareFloat (x y : Float) : Ordering :=
  if x == y then .eq else compare (Number.orderKey x) (Number.orderKey y)

/-- Whether an integer is too large for an unsigned 64-bit word. -/
def isBig (n : Int) : Bool := (Number.twoPow 64 : Int) ≤ n

def intPair (m n : Int) : Int × Int :=
  if isBig m && isBig n then (Number.wrapSigned 128 m, Number.wrapSigned 128 n) else (m, n)

def compareInt (m n : Int) : Ordering :=
  let (m, n) := intPair m n
  compare m n

/-- An integer as a float that is turned back into the same integer.  The largest unsigned
words are among these integers: floats beyond them are turned into them. -/
def exactFloat? (n : Int) : Option Float :=
  let x := Number.floatOfInt n
  if Number.floatIsInt x n || n = (Number.twoPow 64 : Int) - 1 || n = (Number.twoPow 128 : Int) - 1
  then some x else Option.none

def compareIntFloat (n : Int) (x : Float) : Ordering :=
  match exactFloat? n with
  | some y => compareFloat y x
  | Option.none =>
    if x.isFinite then
      let t := Number.wholePart x
      if n < t then .lt else if t < n then .gt else if x < 0 then .gt else .lt
    else compareFloat (Number.floatOfInt n) x

def ofBool (b : Bool) : Int := if b then 1 else 0

mutual

def order : Value → Value → Ordering
  | .bool a, .bool b => compare (ofBool a) (ofBool b)
  | .int a, .int b => compareInt a b
  | .float a, .float b => compareFloat a b
  | .int a, .float b => compareIntFloat a b
  | .float a, .int b => (compareIntFloat b a).swap
  | .str a _, .str b _ => compareText a b
  | .list a, .list b => orderItems a b
  | .stream _ a, .stream _ b => orderItems a b
  | .map a, .map b => orderEntries a b
  | .map a, .roled _ b => orderEntries a b
  | .roled _ a, .map b => orderEntries a b
  | .roled _ a, .roled _ b => orderEntries a b
  | .function a, .function b => compareText a b
  | .space a, .space b => compare a b
  | .loop a, .loop b => compare a b
  | a, b => compare a.kind.rank b.kind.rank

def orderItems : List Value → List Value → Ordering
  | [], [] => .eq
  | [], _ :: _ => .lt
  | _ :: _, [] => .gt
  | a :: as, b :: bs => (order a b).then (orderItems as bs)

def orderEntries : List (Value × Value) → List (Value × Value) → Ordering
  | [], [] => .eq
  | [], _ :: _ => .lt
  | _ :: _, [] => .gt
  | (k, v) :: as, (l, w) :: bs => ((order k l).then (order v w)).then (orderEntries as bs)

end

def find? (key : Value) : List (Value × Value) → Option Value
  | [] => Option.none
  | (k, v) :: rest => if order k key = .eq then some v else find? key rest

/-- Binds a key in ordered entries, replacing an earlier binding. -/
def bind (key value : Value) : List (Value × Value) → List (Value × Value)
  | [] => [(key, value)]
  | (k, v) :: rest =>
    match order key k with
    | .lt => (key, value) :: (k, v) :: rest
    | .eq => (k, value) :: rest
    | .gt => (k, v) :: bind key value rest

/-- The entries of a map written with the given bindings; the last one for a key counts. -/
def entriesOf (bindings : List (Value × Value)) : List (Value × Value) :=
  bindings.foldl (fun entries b => bind b.1 b.2 entries) []

mutual

def same : Value → Value → Bool
  | .undefined _, .undefined _ => true
  | .none, .none => true
  | .bool a, .bool b => a = b
  | .bool a, .int b => ofBool a = b
  | .int a, .bool b => a = ofBool b
  | .bool a, .float b => b == Number.floatOfInt (ofBool a)
  | .float a, .bool b => a == Number.floatOfInt (ofBool b)
  | .int a, .int b => a = b
  | .int a, .float b => (exactFloat? a).any (· == b)
  | .float a, .int b => (exactFloat? b).any (· == a)
  | .float a, .float b => a == b
  | .str a _, .str b _ => a = b
  | .list a, .list b => sameItems a b
  | .list a, .stream _ b => sameItems a b
  | .stream _ a, .list b => sameItems a b
  | .stream _ a, .stream _ b => sameItems a b
  | .map a, .map b => a.length = b.length && sameEntries a b
  | .map a, .roled _ b => a.length = b.length && sameEntries a b
  | .roled _ a, .map b => a.length = b.length && sameEntries a b
  | .roled _ a, .roled _ b => a.length = b.length && sameEntries a b
  | .function a, .function b => a = b
  | .space a, .space b => a = b
  | .loop a, .loop b => a = b
  | _, _ => false

def sameItems : List Value → List Value → Bool
  | [], [] => true
  | a :: as, b :: bs => same a b && sameItems as bs
  | _, _ => false

/-- Whether every entry has an equal one among the others. -/
def sameEntries : List (Value × Value) → List (Value × Value) → Bool
  | [], _ => true
  | (k, v) :: rest, others =>
    (match find? k others with
      | some w => same v w
      | Option.none => false) && sameEntries rest others

end

end Folio.Template.Value
