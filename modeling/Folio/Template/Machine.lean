/-
The state of a running template.

Names live in frames.  A lookup goes through the frames from the innermost one: first the
names stored in the frame, then the loop that the frame belongs to, then what the frame
was opened over; names found in none of them are looked up among the registered functions
and the built-in ones.

What several frames can see and one of them can change is kept aside and known by its
number: the names that macros took from their surroundings, the namespaces and the loops.
-/
import Folio.Function
import Folio.Template.Compiled
import Folio.Template.Filter
import Folio.Template.Value.Expand
import Folio.Template.Value.Json

namespace Folio.Template

/-- What templates are executed in. -/
structure Environment where
  templates : Dict Template := {}
  functions : Registry := {}
  mode : UndefinedMode := .strict

/-- What a frame was opened over. -/
inductive Backing where
  | nothing
  | context (v : Value)
  | closure (id : Nat)
  deriving Inhabited

/-- A level of names. -/
structure Frame where
  names : List (String × Value) := []
  /-- The loop whose iterations run in this frame. -/
  loop : Option Nat := none
  backing : Backing := .nothing
  /-- The names that macros defined in this frame take along. -/
  closure : Option Nat := none
  deriving Inhabited

/-- The code of a loop that may be started again from its own body. -/
structure LoopCode where
  line : Nat
  target : Target
  body : List Stmt
  /-- Whether the loop has a part for when there are no items. -/
  hasElse : Bool
  deriving Inhabited

/-- A running loop. -/
structure LoopState where
  /-- How many iterations are over. -/
  index : Nat := 0
  length : Option Nat
  /-- In how many recursive loops it stands. -/
  depth : Nat
  previous : Option Value := none
  next : Option Value := none
  /-- The arguments of the last call of `changed`. -/
  seen : Option (List Value) := none
  again : Option LoopCode
  deriving Inhabited

namespace LoopState

/-- The attributes of a loop; those that count from the end are missing where the number of
items is not known. -/
def attrs (l : LoopState) : List (String × Value) :=
  let length : Value := (l.length.map fun n => .int n).getD .missing
  let left (n : Nat) : Value := (l.length.map fun len => .int (len - n : Nat)).getD .missing
  [("index0", .int l.index), ("index", .int (l.index + 1)), ("length", length),
    ("revindex", left l.index), ("revindex0", left (l.index + 1)),
    ("first", .bool (l.index = 0)), ("last", .bool (l.length = some (l.index + 1))),
    ("depth", .int (l.depth + 1)), ("depth0", .int l.depth),
    ("previtem", l.previous.getD .missing), ("nextitem", l.next.getD .missing)]

/-- A loop as it stands: its attributes, written as how far it is. -/
def view (l : LoopState) : Value :=
  let total := (l.length.map fun n => Number.intText n).getD "?"
  .roled (.shown ("<loop " ++ Number.intText l.index ++ "/" ++ total ++ ">"))
    (l.attrs.map fun a => (.text a.1, a.2))

end LoopState

/-- The definitions of a block, from the most derived template on, and how many of them the
current call has been handed up. -/
structure BlockChain where
  bodies : List (String × List Stmt)
  level : Nat := 0
  deriving Inhabited

/-- The state of a running template. -/
structure Machine where
  /-- The open frames, the innermost first. -/
  frames : List Frame
  /-- The depth at which the frames start. -/
  depth : Nat := 0
  /-- The template whose statements are being executed. -/
  template : String
  blocks : List (String × BlockChain) := []
  /-- The block that is being executed. -/
  block : Option String := none
  /-- The templates that were loaded as parents. -/
  loaded : List String
  /-- The template that the statements under execution extend. -/
  parent : Option Template := none
  escape : Escape
  out : String := ""
  /-- Whether output is thrown away. -/
  discarding : Bool := false
  closures : Array (List (String × Value)) := #[]
  spaces : Array (List (Value × Value)) := #[]
  loops : Array LoopState := #[]
  /-- What recursive loops have left behind in the current unit, the newest first: values that
  an operator finds between its operands. -/
  spill : List Value := []

/-- A step of a running template. -/
abbrev Run (α : Type) := ReaderT Environment (StateT Machine (Except Error)) α

/-- How deep frames may be nested. -/
def depthLimit : Nat := 500

/-- What an included template adds to the depth. -/
def includeDepth : Nat := 10

/-- What a call of a macro adds to the depth. -/
def callDepth : Nat := 4

namespace Run

def fault {α : Type} (line : Nat) (fault : Fault) : Run α := do
  throw (Error.located fault (← get).template line)

/-- Fails with a kind on a line of the current template. -/
def fail {α : Type} (line : Nat) (kind : ErrorKind) : Run α := Run.fault line { kind }

/-- The result of a computation that is reported on a line. -/
def lift {α : Type} (line : Nat) : Except Fault α → Run α
  | .ok v => return v
  | .error f => Run.fault line f

/-! ### Names -/

def isBuiltin (name : String) : Bool :=
  name = "range" || name = "dict" || name = "debug" || name = "namespace"

def registered? (env : Environment) (name : String) : Option Value :=
  match env.functions.get? name with
  | some (.function _) => some (.function name)
  | some (.value v) => some v
  | none => if isBuiltin name then some (.function name) else none

def inFrame? (m : Machine) (name : String) (f : Frame) : Option Value :=
  match lookup? name f.names with
  | some v => some v
  | none =>
    match if name = "loop" then f.loop else none with
    | some id => some (.loop id)
    | none =>
      match f.backing with
      | .nothing => none
      | .context v => v.attr? name
      | .closure id => (m.closures[id]?).bind (lookup? name)

def lookupName? (name : String) : Run (Option Value) := do
  let m ← get
  match m.frames.findSome? (inFrame? m name) with
  | some v => return some v
  | none => return registered? (← read) name

def setName (name : String) (v : Value) (names : List (String × Value)) :
    List (String × Value) :=
  (name, v) :: names.filter (·.1 ≠ name)

def store (name : String) (v : Value) : Run Unit :=
  modify fun m =>
    match m.frames with
    | [] => m
    | f :: rest =>
      let closures :=
        match f.closure with
        | some id => m.closures.modify id (setName name v)
        | none => m.closures
      { m with frames := { f with names := setName name v f.names } :: rest, closures := closures }

def hasRoom (m : Machine) : Bool := m.depth + m.frames.length ≤ depthLimit

def push (line : Nat) (f : Frame) : Run Unit := do
  let m ← get
  if hasRoom m then set { m with frames := f :: m.frames }
  else fail line .invalidOperation

def pop : Run Unit :=
  modify fun m => { m with frames := m.frames.tail }

/-- The names that macros defined in the innermost frame take along, with the given ones
among them. -/
def enclose (names : List String) : Run Nat := do
  let m ← get
  match m.frames with
  | [] => return 0
  | f :: rest =>
    let id ←
      match f.closure with
      | some id => pure id
      | none => do
        let id := m.closures.size
        set { m with
          closures := m.closures.push []
          frames := (if names.isEmpty then f else { f with closure := some id }) :: rest }
        pure id
    for name in names do
      let taken := ((← get).closures[id]?).getD []
      if (lookup? name taken).isNone then
        let v := (← lookupName? name).getD .missing
        modify fun m => { m with closures := m.closures.modify id (setName name v) }
    return id

/-! ### Values that change -/

/-- The current entries of a namespace or attributes of a loop. -/
def current (m : Machine) : Value → Value
  | .space id => .map ((m.spaces[id]?).getD [])
  | .loop id =>
    match m.loops[id]? with
    | some l => l.view
    | none => .missing
  | v => v

def opened (v : Value) : Run Value := do
  return current (← get) v

/-- A value with the current entries of all namespaces and loops in it. -/
def settled (v : Value) : Run Value := do
  let m ← get
  return Value.expandWithin (current m) (m.spaces.size + 2) v

/-! ### Operands -/

/-- The values that steps give, in order.  Where recursive loops leave values behind in
between, those count as well, and the last ones are taken. -/
def operands (steps : List (Run Value)) : Run (List Value) := do
  let outer := (← get).spill
  modify fun m => { m with spill := [] }
  let mut stack : List Value := []
  for step in steps do
    let v ← step
    let left := (← get).spill
    modify fun m => { m with spill := [] }
    stack := v :: (left ++ stack)
  modify fun m => { m with spill := stack.drop steps.length ++ outer }
  return (stack.take steps.length).reverse

def operandPair (first second : Run Value) : Run (Value × Value) := do
  let outer := (← get).spill
  modify fun m => { m with spill := [] }
  let v ← first
  let below := (← get).spill ++ outer
  modify fun m => { m with spill := [] }
  let w ← second
  match (← get).spill with
  | [] =>
    modify fun m => { m with spill := below }
    return (v, w)
  | top :: rest =>
    modify fun m => { m with spill := rest ++ v :: below }
    return (top, w)

def leave (v : Value) : Run Unit :=
  modify fun m => { m with spill := v :: m.spill }

/-! ### Output -/

def write (s : String) : Run Unit :=
  modify fun m => if m.discarding then m else { m with out := m.out ++ s }

def emit (line : Nat) (v : Value) : Run Unit := do
  lift line ((← read).mode.require v)
  write ((← get).escape.render (← settled v))

def captured (step : Run Unit) : Run String := do
  let outer ← get
  set { outer with out := "", discarding := false }
  step
  let text := (← get).out
  modify fun m => { m with out := outer.out, discarding := outer.discarding }
  return text

/-- What a step writes, as a value: it is escaped already where output is escaped. -/
def capturedValue (step : Run Unit) : Run Value := do
  let text ← captured step
  return .str text ((← get).escape ≠ .none)

def silently (step : Run Unit) : Run Unit := do
  let outer := (← get).discarding
  modify fun m => { m with discarding := true }
  step
  modify fun m => { m with discarding := outer }

end Run

end Folio.Template
