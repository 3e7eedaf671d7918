/-
Functions that templates can call, and the registry that binds them to names.

A function gets its arguments in order, named ones as a map behind the others, and knows how
the caller treats what does not exist.  The registry binds names to functions and to plain
values; of two bindings of a name the later one counts.

A function has no state: its arguments, and how the caller treats what does not exist, decide
what it returns.
-/
import Folio.Dict
import Folio.Text.Case
import Folio.Template.Arguments

namespace Folio

open Template

/-- A function that templates can call. -/
structure Function where
  call : UndefinedMode → List Value → Except Fault Value

namespace Function

/-- The first value if it counts as true, else the second one. -/
def coalesce : Function where
  call _ := Taking.apply do
    let value ← Taking.value
    let fallback ← Taking.value
    return .ok (if value.isTrue then value else fallback)

/-- Whether there is an error for the given field, or any error if no field is given. -/
def containsErrors : Function where
  call mode := Taking.apply do
    let errors ← Taking.value
    let field ← Taking.optional (Taking.asText mode)
    return .ok (.bool (match field with
      | some field => ((errors.attr? field).map Value.isTrue).getD false
      | none => 0 < (errors.length?).getD 0))

/-- A function without parameters that gives a fixed text. -/
def constant (s : String) : Function where
  call _ := Taking.apply (return .ok (.text s))

/-- A function of a text. -/
def ofText (f : String → String) : Function where
  call mode := Taking.apply do
    let s ← Taking.text mode
    return .ok (.text (f s))

/-- The text in capital letters. -/
def shout : Function := ofText Text.upper

/-- The text with hyphens in place of spaces. -/
def slugify : Function := ofText fun s => s.map fun c => if c = ' ' then '-' else c

/-- The text between angle brackets, which marks it as a key for a lookup by language. -/
def translate : Function := ofText fun s => "<" ++ s ++ ">"

/-- The first of two texts. -/
def first : Function where
  call mode := Taking.apply do
    let s ← Taking.text mode
    discard (Taking.text mode)
    return .ok (.text s)

/-- The argument itself. -/
def echo : Function where
  call _ := Taking.apply do
    let v ← Taking.value
    return .ok v

/-- The sum of two signed 64-bit integers, without the carry. -/
def add : Function where
  call mode := Taking.apply do
    let a ← Taking.int mode
    let b ← Taking.int mode
    return .ok (.int (Number.wrapSigned 64 (a + b)))

/-- The number of arguments; the named ones count as one. -/
def count : Function where
  call _ := Taking.apply do
    let args ← Taking.rest
    return .ok (.int args.length)

/-- A function without parameters that always fails. -/
def fail : Function where
  call _ := Taking.apply (return .error { kind := .invalidOperation })

end Function

/-- What a name is bound to. -/
inductive Entry where
  | function (f : Function)
  | value (v : Value)

/-- The kind of an entry, as templates see it. -/
def Entry.kind : Entry → Kind
  | .function _ => .object
  | .value v => v.kind

/-- The result of calling an entry; only functions can be called. -/
def Entry.call (mode : UndefinedMode) (args : List Value) : Entry → Except Fault Value
  | .function f => f.call mode args
  | .value _ => .error { kind := .invalidOperation }

/-- Functions and values by name. -/
abbrev Registry := Dict Entry

namespace Registry

/-- The registry with the two functions that every site offers. -/
def standard : Registry :=
  (Dict.empty.insert "coalesce" (.function .coalesce)).insert "contains_errors"
    (.function .containsErrors)

/-- The bound names in increasing order. -/
def names (r : Registry) : List String := r.keys

end Registry

end Folio
