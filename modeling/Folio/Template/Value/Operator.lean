/-
The operators on values.

Whole numbers are computed exactly and have to stay within a signed 128-bit word; a
division of whole numbers rounds so that the remainder is not negative, and a truth value
counts as a number.  As soon as a float takes part the result is a float, and so is every
plain division.  A text may only be repeated up to a fixed size.
-/
import Folio.Template.Error
import Folio.Text.Pieces
import Folio.Template.Value.Order
import Folio.Template.Value.Text

namespace Folio.Template.Value

/-- Two operands brought to a common form. -/
inductive Operands where
  | ints (a b : Int)
  | floats (a b : Float)
  | texts (a b : String)

/-- The failure of an operator that is not defined on its operands. -/
def notDefined {α : Type} : Except Fault α := .error { kind := .invalidOperation }

/-- Two values as integers that the operators compute with. -/
def operandInts? (a b : Value) : Option (Int × Int) := do
  let m ← wholeNumber? a
  let n ← wholeNumber? b
  let (m, n) := intPair m n
  if Number.fitsSigned 128 m && Number.fitsSigned 128 n then some (m, n) else Option.none
where
  wholeNumber? : Value → Option Int
    | .bool b => some (ofBool b)
    | .int n => some n
    | _ => Option.none

def operandFloat? : Value → Option Float
  | .bool b => some (Number.floatOfInt (ofBool b))
  | .int n => some (Number.floatOfInt n)
  | .float x => some x
  | _ => Option.none

/-- The common form of two operands, if there is one. -/
def operands? : Value → Value → Option Operands
  | .str a _, .str b _ => some (.texts a b)
  | .float a, b => (operandFloat? b).map (.floats a)
  | a, .float b => (operandFloat? a).map (.floats · b)
  | a, b => (operandInts? a b).map fun (m, n) => .ints m n

/-- The result of an operation on integers, if it is not too large. -/
def intResult (n : Int) : Except Fault Value :=
  if Number.fitsSigned 128 n then .ok (.int n) else notDefined

def count? : Value → Option Nat
  | .bool b => some (ofBool b).toNat
  | .int n => if 0 ≤ n then some n.toNat else Option.none
  | .float x =>
    match Number.integral? x with
    | some n => if 0 ≤ n then some n.toNat else Option.none
    | Option.none => Option.none
  | _ => Option.none

def sequence? : Value → Option (List Value)
  | .list items | .stream _ items => some items
  | _ => Option.none

def add (a b : Value) : Except Fault Value :=
  match sequence? a, sequence? b with
  | some as, some bs => .ok (.stream (a.isSized && b.isSized) (as ++ bs))
  | _, _ =>
    match operands? a b with
    | some (.ints m n) => intResult (m + n)
    | some (.floats x y) => .ok (.float (x + y))
    | some (.texts s t) => .ok (text (s ++ t))
    | Option.none => notDefined

def sub (a b : Value) : Except Fault Value :=
  match operands? a b with
  | some (.ints m n) => intResult (m - n)
  | some (.floats x y) => .ok (.float (x - y))
  | _ => notDefined

/-- How many bytes a repeated text may have. -/
def repetitionLimit : Nat := 100000000

/-- `x` appended to itself `n` times over, starting from `empty`; the number of steps is that
of the binary digits of `n`. -/
def repeated {α : Type} [Append α] (empty x : α) (n : Nat) : α :=
  if n = 0 then empty
  else
    let half := repeated empty x (n / 2)
    if n % 2 = 0 then half ++ half else x ++ (half ++ half)
termination_by n

/-- A text so many times over, if that is not too long. -/
def repeatText (s : String) (n : Nat) : Except Fault Value :=
  if s.isEmpty then .ok (text "")
  else if repetitionLimit < s.utf8ByteSize * n then notDefined
  else .ok (text (repeated "" s n))

/-- The items of a list or a stream so many times over, if their number is known. -/
def repeatItems (v : Value) (items : List Value) (n : Nat) : Except Fault Value :=
  if v.isSized then .ok (.stream true (repeated [] items n)) else notDefined

/-- A product; a text or a list times a number is repeated. -/
def mul (a b : Value) : Except Fault Value :=
  let repetition : Option (Value × (Nat → Except Fault Value)) :=
    match a.str?, b.str? with
    | some s, _ => some (b, repeatText s)
    | _, some s => some (a, repeatText s)
    | _, _ =>
      match sequence? a, sequence? b with
      | some items, _ => some (b, repeatItems a items)
      | _, some items => some (a, repeatItems b items)
      | _, _ => Option.none
  match repetition with
  | some (times, build) =>
    match count? times with
    | some n => build n
    | Option.none => notDefined
  | Option.none =>
    match operands? a b with
    | some (.ints m n) => intResult (m * n)
    | some (.floats x y) => .ok (.float (x * y))
    | _ => notDefined

def div (a b : Value) : Except Fault Value :=
  match operandFloat? a, operandFloat? b with
  | some x, some y => .ok (.float (x / y))
  | _, _ => notDefined

def floorDiv (a b : Value) : Except Fault Value :=
  match operands? a b with
  | some (.ints m n) => if n = 0 then notDefined else intResult (m / n)
  | some (.floats x y) => .ok (.float (Number.quotient x y))
  | _ => notDefined

def rem (a b : Value) : Except Fault Value :=
  match operands? a b with
  | some (.ints m n) => if n = 0 then notDefined else intResult (m % n)
  | some (.floats x y) => .ok (.float (Number.remainder x y))
  | _ => notDefined

/-- A power by repeated multiplication, as long as the result is not too large. -/
def powWithin (base : Int) : Nat → Int → Option Int
  | 0, acc => some acc
  | n + 1, acc =>
    let next := acc * base
    if Number.fitsSigned 128 next then powWithin base n next else Option.none

/-- The power of two integers; the bases that no exponent makes large are told apart. -/
def intPow? (m : Int) (n : Nat) : Option Int :=
  if m = 0 ∨ m = 1 ∨ m = -1 then some (if n = 0 then 1 else if n % 2 = 0 then m * m else m)
  else if n ≤ 128 then powWithin m n 1
  else Option.none

def pow (a b : Value) : Except Fault Value :=
  match operands? a b with
  | some (.ints m n) =>
    if Number.fitsUnsigned 32 n then
      match intPow? m n.toNat with
      | some r => .ok (.int r)
      | Option.none => notDefined
    else notDefined
  | some (.floats x y) => .ok (.float (x.pow y))
  | _ => notDefined

/-- The opposite of a number.  The magnitude of the least signed 128-bit integer stays as it
is. -/
def neg : Value → Except Fault Value
  | .int n => if n = Number.twoPow 127 then .ok (.int n) else intResult (-n)
  | .float x => .ok (.float (-x))
  | _ => notDefined

def concat (a b : Value) : Value := text (a.display ++ b.display)

def contains (container v : Value) : Except Fault Bool :=
  match container with
  | .undefined _ => .ok false
  | .str s _ => .ok (Text.hasInfix v.display.toList s.toList)
  | .list items | .stream _ items => .ok (items.any (same · v))
  | .map entries | .roled _ entries => .ok (find? v entries).isSome
  | .function _ | .space _ | .loop _ => .ok false
  | _ => notDefined

def comparison (op : BinaryOp) (a b : Value) : Bool :=
  match op with
  | .eq => same a b
  | .ne => !same a b
  | .lt => (order a b).isLT
  | .le => (order a b).isLE
  | .gt => (order a b).isGT
  | .ge => (order a b).isGE
  | _ => false

end Folio.Template.Value
