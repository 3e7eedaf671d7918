/-
Taking the arguments of a call one after the other.

A function names the arguments it takes in order and closes the list; what is left over
then is too much.  Named arguments arrive as one map behind the positional ones.
-/
import Folio.Template.Undefined
import Folio.Template.Value.Access

namespace Folio.Template

/-- A step that takes arguments off the front of a list. -/
abbrev Taking (α : Type) := StateT (List Value) (Except Fault) α

namespace Taking

def fail {α : Type} (kind : ErrorKind) : Taking α := throw { kind }

def next? : Taking (Option Value) := do
  match ← get with
  | [] => return none
  | v :: rest =>
    set rest
    return some v

def value : Taking Value := do
  match ← next? with
  | some v => return v
  | none => fail .missingArgument

def needed (mode : UndefinedMode) : Taking Value := do
  let v ← value
  (mode.require v : Except Fault Unit)
  return v

/-- A value as text: its display text, for all but named arguments. -/
def asText (mode : UndefinedMode) (v : Value) : Taking String := do
  (mode.require v : Except Fault Unit)
  match v with
  | .named _ => fail .invalidOperation
  | v => return v.display

def text (mode : UndefinedMode) : Taking String := do
  asText mode (← value)

def asString (mode : UndefinedMode) (v : Value) : Taking String := do
  (mode.require v : Except Fault Unit)
  match v with
  | .str s _ => return s
  | _ => fail .invalidOperation

def string (mode : UndefinedMode) : Taking String := do
  asString mode (← value)

/-- The next argument as it is read by `read`; nothing if it is not given, does not exist or
is `none`. -/
def optional {α : Type} (read : Value → Taking α) : Taking (Option α) := do
  match ← next? with
  | some v => if v.isUndefined || v.isNone then return none else some <$> read v
  | none => return none

def asBool : Value → Taking Bool
  | .bool b => return b
  | _ => fail .invalidOperation

def asInt (fits : Int → Bool) (v : Value) : Taking Int := do
  let n? :=
    match v with
    | .bool b => some (Value.ofBool b)
    | .int n => some n
    | .float x => Number.integral? x
    | _ => none
  match n? with
  | some n => if fits n then return n else fail .invalidOperation
  | none => fail .invalidOperation

def int (mode : UndefinedMode) : Taking Int := do
  asInt (Number.fitsSigned 64) (← needed mode)

def rest : Taking (List Value) := do
  let args ← get
  set ([] : List Value)
  return args

/-- The named arguments, if the next argument is the map of them. -/
def named : Taking (List (Value × Value)) := do
  match ← get with
  | .named entries :: rest =>
    set rest
    return entries
  | _ => return []

/-- Takes the arguments of a call, all of them, and computes the result. -/
def apply {α : Type} (taking : Taking (Except Fault α)) (args : List Value) :
    Except Fault α := do
  let (result, left) ← StateT.run taking args
  if left.isEmpty then result else .error { kind := .tooManyArguments }

def read {α : Type} (step : Value → Taking α) (v : Value) : Except Fault α :=
  (·.1) <$> StateT.run (step v) []

end Taking

/-- The named arguments that may be given, and the failure if there is another one. -/
def allowNamed (allowed : List String) (entries : List (Value × Value)) : Except Fault Unit :=
  if entries.all fun e => (e.1.str?.map (allowed.contains ·)).getD false then .ok ()
  else .error { kind := .tooManyArguments }

def namedArg? (name : String) (entries : List (Value × Value)) : Option Value :=
  Value.find? (Value.text name) entries

end Folio.Template
