/-
The values that templates compute with.

A text may be marked safe, which keeps it from being escaped.  A list holds its items; a
stream is what ranges, slices and the like give, which can be gone through as a list can
but counts as another kind of value.  The entries of a map are in increasing order of
their keys, in the order of values of `Folio.Template.Value.Order`.

Some maps have a role: the named arguments of a call, a macro, which can be called, or a
module or a loop, which is written in its own way.  Their entries keep an order of their own.

Functions are known by the name that they are registered under, and what changes while a
template runs, the namespaces and the loops, by a number that the running template knows.
-/
import Folio.Template.Syntax

namespace Folio.Template

/-- The code of a macro. -/
structure MacroCode where
  name : String
  params : List String
  /-- The defaults of the last parameters. -/
  defaults : List Expr
  body : List Stmt
  /-- Whether the body calls the body of a call block. -/
  wantsCaller : Bool
  /-- The template that defines it. -/
  template : String
  deriving Inhabited

/-- What a map is for, other than to hold its entries. -/
inductive Role where
  /-- The named arguments of a call. -/
  | named
  /-- A macro and the number of the names that it took from its surroundings. -/
  | callable (code : MacroCode) (names : Nat)
  /-- Something that is written as the given text. -/
  | shown (content : String)
  deriving Inhabited

/-- A value. -/
inductive Value where
  /-- The value of what does not exist; a silent one is never an error. -/
  | undefined (silent : Bool)
  | none
  | bool (b : Bool)
  | int (n : Int)
  | float (x : Float)
  | str (s : String) (safe : Bool)
  | list (items : List Value)
  /-- Items one after the other; `sized` tells whether their number is known up front. -/
  | stream (sized : Bool) (items : List Value)
  | map (entries : List (Value × Value))
  | roled (role : Role) (entries : List (Value × Value))
  | function (name : String)
  | space (id : Nat)
  | loop (id : Nat)
  deriving Inhabited

/-- The kinds of values. -/
inductive Kind where
  | undefined | none | bool | number | string | sequence | map | iterable | object
  deriving DecidableEq, Inhabited, Repr

def Kind.rank : Kind → Nat
  | .undefined => 0
  | .none => 1
  | .bool => 2
  | .number => 3
  | .string => 4
  | .sequence => 5
  | .map => 6
  | .iterable => 7
  | .object => 8

def Kind.name : Kind → String
  | .undefined => "undefined"
  | .none => "none"
  | .bool => "bool"
  | .number => "number"
  | .string => "string"
  | .sequence => "sequence"
  | .map => "map"
  | .iterable => "iterator"
  | .object => "plain object"

namespace Value

/-- An unsafe text. -/
abbrev text (s : String) : Value := .str s false

/-- The named arguments of a call. -/
@[match_pattern] abbrev named (entries : List (Value × Value)) : Value := .roled .named entries

/-- The value of what does not exist. -/
abbrev missing : Value := .undefined false

def kind : Value → Kind
  | .undefined _ => .undefined
  | .none => .none
  | .bool _ => .bool
  | .int _ | .float _ => .number
  | .str .. => .string
  | .list _ => .sequence
  | .stream .. => .iterable
  | .map _ | .roled .. | .space _ | .loop _ => .map
  | .function _ => .object

def isUndefined : Value → Bool
  | .undefined _ => true
  | _ => false

def isNone : Value → Bool
  | .none => true
  | _ => false

def isInteger : Value → Bool
  | .int _ => true
  | _ => false

def isTrue : Value → Bool
  | .undefined _ | .none => false
  | .bool b => b
  | .int n => n ≠ 0
  | .float x => x != 0
  | .str s _ => s ≠ ""
  | .list items => !items.isEmpty
  | .stream sized items => !(sized && items.isEmpty)
  | .map entries | .roled _ entries => !entries.isEmpty
  | .function _ | .space _ | .loop _ => true

def str? : Value → Option String
  | .str s _ => some s
  | _ => Option.none

def isSafe : Value → Bool
  | .str _ safe => safe
  | _ => false

/-- The number of characters, items or entries, where it is known. -/
def length? : Value → Option Nat
  | .str s _ => some s.length
  | .list items => some items.length
  | .stream true items => some items.length
  | .map entries | .roled _ entries => some entries.length
  | _ => Option.none

/-- The number of iterations of a loop over a value, where it is known up front; the
characters of a text are not counted before. -/
def iterations? : Value → Option Nat
  | .str .. => Option.none
  | v => v.length?

/-- What a loop goes through: characters, items or keys; nothing for `none` and for what
does not exist. -/
def items? : Value → Option (List Value)
  | .undefined _ | .none => some []
  | .str s _ => some (s.toList.map fun c => text (String.singleton c))
  | .list items | .stream _ items => some items
  | .map entries | .roled _ entries => some (entries.map (·.1))
  | _ => Option.none

def members? : Value → Option (List Value)
  | .list items | .stream _ items => some items
  | .map entries | .roled _ entries => some (entries.map (·.1))
  | _ => Option.none

def entries? : Value → Option (List (Value × Value))
  | .map entries | .roled _ entries => some entries
  | _ => Option.none

/-- Whether the number of items of a list or a stream is known up front. -/
def isSized : Value → Bool
  | .stream sized _ => sized
  | _ => true

/-- Whether a value is an object, as opposed to a text, a number or the like. -/
def isObject : Value → Bool
  | .list _ | .stream .. | .map _ | .roled .. | .function _ | .space _ | .loop _ => true
  | _ => false

/-- A macro as a value, with what it tells about itself. -/
def ofMacro (code : MacroCode) (names : Nat) : Value :=
  .roled (.callable code names)
    [(text "name", text code.name), (text "arguments", .list (code.params.map text)),
      (text "caller", .bool code.wantsCaller)]

def ofLiteral : Literal → Value
  | .none => .none
  | .bool b => .bool b
  | .int n => .int n
  | .float x => .float x
  | .str s => text s

end Value

end Folio.Template
