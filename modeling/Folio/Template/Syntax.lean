/-
The syntax trees of templates.

Every node that can fail when it is evaluated carries a line.  A freshly parsed tree has
the line at which the node starts; `Folio.Template.Lines` replaces it by the line that a
failure of the node is reported on, and `Folio.Template.Steps` numbers the steps.
-/
namespace Folio.Template

/-- A literal value. -/
inductive Literal where
  | none
  | bool (b : Bool)
  | int (n : Int)
  | float (x : Float)
  | str (s : String)
  deriving Inhabited

inductive UnaryOp where
  | not
  | neg
  deriving DecidableEq, Inhabited, Repr

inductive BinaryOp where
  | eq | ne | lt | le | gt | ge
  | and | or
  | add | sub | mul | div | floorDiv | rem | pow
  | concat
  | mem
  deriving DecidableEq, Inhabited, Repr

/-- Whether a positional argument is one value or a list of values to be spread out. -/
inductive ArgStyle where
  | single
  | spread
  deriving DecidableEq, Inhabited, Repr

/-- A comparison with the operand before it, as part of a chain. -/
structure Link where
  line : Nat
  op : BinaryOp
  /-- Whether the outcome is turned round, as in `not in`. -/
  negated : Bool := false
  deriving DecidableEq, Inhabited, Repr

/-- An expression.  Arguments come in two lists, those by position and those by name; a named
argument without a name is a map of arguments to be spread out.  A chain holds if every one
of its comparisons does. -/
inductive Expr where
  | const (line : Nat) (value : Literal)
  | var (line : Nat) (name : String)
  | unary (line : Nat) (op : UnaryOp) (operand : Expr)
  | binary (line : Nat) (op : BinaryOp) (left right : Expr)
  | chain (line : Nat) (first : Expr) (links : List (Link × Expr))
  | cond (line : Nat) (test yes : Expr) (no : Option Expr)
  | attr (line : Nat) (object : Expr) (name : String)
  | item (line : Nat) (object index : Expr)
  | slice (line : Nat) (object : Expr) (start stop step : Option Expr)
  | call (line : Nat) (callee : Expr) (args : List (ArgStyle × Expr))
      (named : List (Option String × Expr))
  | filter (line : Nat) (name : String) (subject : Option Expr) (args : List (ArgStyle × Expr))
      (named : List (Option String × Expr))
  | test (line : Nat) (name : String) (subject : Expr) (args : List (ArgStyle × Expr))
      (named : List (Option String × Expr))
  | list (line : Nat) (items : List Expr)
  | map (line : Nat) (entries : List (Expr × Expr))
  deriving Inhabited

/-- What an assignment stores to: a name, several targets at once, or an attribute. -/
inductive Target where
  | var (line : Nat) (name : String)
  | list (line : Nat) (items : List Target)
  | attr (line : Nat) (object : Expr) (name : String)
  deriving Inhabited

/-- A statement.  One that includes a template knows the number of the step in which it does. -/
inductive Stmt where
  | text (line : Nat) (content : String)
  | emit (line : Nat) (value : Expr)
  | forLoop (line : Nat) (target : Target) (items : Expr) (filter : Option (Nat × Expr))
      (recursive : Bool) (body orElse : List Stmt)
  | ifElse (line : Nat) (test : Expr) (yes no : List Stmt)
  | withBlock (line : Nat) (bindings : List (Target × Expr)) (body : List Stmt)
  | assign (line : Nat) (target : Target) (value : Expr)
  | capture (line : Nat) (target : Target) (filter : Option Expr) (body : List Stmt)
  | autoEscape (line : Nat) (enabled : Expr) (body : List Stmt)
  | filterBlock (line : Nat) (filter : Expr) (body : List Stmt)
  | block (line : Nat) (name : String) (required : Bool) (body : List Stmt)
  | extend (line : Nat) (parent : Expr)
  | include (line step : Nat) (names : Expr) (ignoreMissing : Bool)
  | importAs (line step : Nat) (source : Expr) (target : Target)
  | importNames (line step : Nat) (source : Expr) (names : List (Target × Option Target))
  | defMacro (line : Nat) (name : String) (params : List String) (defaults : List Expr)
      (body : List Stmt)
  | callBlock (line : Nat) (call : Expr) (params : List String) (defaults : List Expr)
      (body : List Stmt)
  | eval (line : Nat) (call : Expr)
  deriving Inhabited

/-- Where the node starts, or the line it is reported on. -/
def Expr.line : Expr → Nat
  | .const l _ | .var l _ | .unary l _ _ | .binary l _ _ _ | .chain l _ _ | .cond l _ _ _
  | .attr l _ _ | .item l _ _ | .slice l _ _ _ _ | .call l _ _ _ | .filter l _ _ _ _
  | .test l _ _ _ _ | .list l _ | .map l _ => l

/-- The line of an attribute or a list of targets, and of a name. -/
def Target.line : Target → Nat
  | .var l _ | .list l _ | .attr l _ _ => l

def Expr.isLookup : Expr → Bool
  | .var .. => true
  | .attr _ e _ | .item _ e _ => e.isLookup
  | _ => false

mutual

/-- An expression as something to store to, if it is a name, an attribute, or a list of such. -/
def Expr.target? : Expr → Option Target
  | .var l name => some (.var l name)
  | .attr l object name => some (.attr l object name)
  | .list l items => (targets? items).map (.list l)
  | _ => none

def targets? : List Expr → Option (List Target)
  | [] => some []
  | e :: rest => do
    let t ← e.target?
    let rest ← targets? rest
    return t :: rest

end

/-- A call, told apart by what stands before the parenthesis. -/
inductive Callee where
  /-- A bare name. -/
  | named (name : String)
  /-- An attribute of `self`: the block of that name. -/
  | block (name : String)
  /-- An attribute of something else. -/
  | method (object : Expr) (name : String)
  /-- Any other expression. -/
  | value (callee : Expr)

def Expr.callee : Expr → Callee
  | .var _ name => .named name
  | .attr _ (.var _ "self") name => .block name
  | .attr _ object name => .method object name
  | e => .value e

end Folio.Template
