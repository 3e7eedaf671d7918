/-
The tests of templates, which answer a question about their first argument.
-/
import Folio.Text.Case
import Folio.Template.Arguments

namespace Folio.Template.Test

def ofValue (p : Value → Bool) : List Value → Except Fault Bool :=
  Taking.apply do
    let v ← Taking.value
    return .ok (p v)

def ofPair (p : Value → Value → Bool) : List Value → Except Fault Bool :=
  Taking.apply do
    let a ← Taking.value
    let b ← Taking.value
    return .ok (p a b)

def ofString (mode : UndefinedMode) (p : String → Bool) : List Value → Except Fault Bool :=
  Taking.apply do
    let s ← Taking.string mode
    return .ok (p s)

def ofTexts (mode : UndefinedMode) (p : List Char → List Char → Bool) :
    List Value → Except Fault Bool :=
  Taking.apply do
    let s ← Taking.text mode
    let t ← Taking.text mode
    return .ok (p s.toList t.toList)

/-- A value as an integer; a float only if it is one. -/
def int? : Value → Option Int
  | .bool b => some (Value.ofBool b)
  | .int n => if Number.fitsSigned 128 n then some n else none
  | .float x => Number.integral? x
  | _ => none

def divisible (a b : Value) : Bool :=
  match Value.operands? a b with
  | some (.ints m n) => n ≠ 0 && m % n = 0
  | some (.floats x y) => Number.remainder x y == 0
  | _ => false

/-- Whether two values are of one type and equal; integers and floats are two types. -/
def identical (a b : Value) : Bool :=
  a.kind = b.kind && a.isInteger = b.isInteger && Value.same a b

def names : List String :=
  ["undefined", "defined", "none", "safe", "escaped", "boolean", "odd", "even", "divisibleby",
    "number", "integer", "int", "float", "string", "sequence", "iterable", "mapping",
    "startingwith", "endingwith", "lower", "upper", "true", "false", "sameas", "eq", "equalto",
    "==", "ne", "!=", "lt", "lessthan", "<", "le", "<=", "gt", "greaterthan", ">", "ge", ">=",
    "in", "filter", "test"]

def filterNames : List String :=
  ["safe", "escape", "e", "lower", "upper", "title", "capitalize", "replace", "length", "count",
    "dictsort", "items", "reverse", "trim", "join", "split", "lines", "default", "d", "round",
    "abs", "int", "float", "attr", "first", "last", "min", "max", "sort", "list", "string", "bool",
    "batch", "slice", "sum", "indent", "select", "reject", "selectattr", "rejectattr", "map",
    "unique"]

def ofName? (mode : UndefinedMode) : String → Option (List Value → Except Fault Bool)
  | "undefined" => some (ofValue Value.isUndefined)
  | "defined" => some (ofValue fun v => !v.isUndefined)
  | "none" => some (ofValue Value.isNone)
  | "safe" | "escaped" => some (ofValue Value.isSafe)
  | "boolean" => some (ofValue fun v => v.kind = .bool)
  | "odd" => some (ofValue fun v => (int? v).any (· % 2 ≠ 0))
  | "even" => some (ofValue fun v => (int? v).any (· % 2 = 0))
  | "divisibleby" => some (ofPair divisible)
  | "number" => some (ofValue fun v => v.kind = .number)
  | "integer" | "int" => some (ofValue Value.isInteger)
  | "float" => some (ofValue fun v =>
      match v with
      | .float _ => true
      | _ => false)
  | "string" => some (ofValue fun v => v.kind = .string)
  | "sequence" => some (ofValue fun v => v.kind = .sequence)
  | "iterable" => some (ofValue fun v => v.items?.isSome)
  | "mapping" => some (ofValue fun v => v.kind = .map)
  | "startingwith" => some (ofTexts mode fun s t => t.isPrefixOf s)
  | "endingwith" => some (ofTexts mode fun s t => t.isSuffixOf s)
  | "lower" => some (ofString mode fun s => s.toList.all Text.isLowercase)
  | "upper" => some (ofString mode fun s => s.toList.all Text.isUppercase)
  | "true" => some (ofValue fun v => v.kind = .bool && v.isTrue)
  | "false" => some (ofValue fun v => v.kind = .bool && !v.isTrue)
  | "sameas" => some (ofPair identical)
  | "eq" | "equalto" | "==" => some (ofPair Value.same)
  | "ne" | "!=" => some (ofPair fun a b => !Value.same a b)
  | "lt" | "lessthan" | "<" => some (ofPair fun a b => (Value.order a b).isLT)
  | "le" | "<=" => some (ofPair fun a b => (Value.order a b).isLE)
  | "gt" | "greaterthan" | ">" => some (ofPair fun a b => (Value.order a b).isGT)
  | "ge" | ">=" => some (ofPair fun a b => (Value.order a b).isGE)
  | "filter" => some (ofString mode filterNames.contains)
  | "test" => some (ofString mode names.contains)
  | "in" => some <| Taking.apply do
      let v ← Taking.value
      let container ← Taking.value
      return do
        mode.require container
        return (Value.contains container v).toOption.getD false
  | _ => none

end Folio.Template.Test
