/-
How templates treat what does not exist.
-/
import Folio.Template.Error
import Folio.Template.Value.Basic

namespace Folio

/-- How a missing value is treated. -/
inductive UndefinedMode where
  /-- A missing value is written as nothing, but has no attributes. -/
  | lenient
  /-- A missing value has missing attributes. -/
  | chainable
  /-- Every use of a missing value fails. -/
  | strict
  deriving DecidableEq, Inhabited, Repr

def UndefinedMode.name : UndefinedMode → String
  | .lenient => "lenient"
  | .chainable => "chainable"
  | .strict => "strict"

def UndefinedMode.ofName? (name : String) : Option UndefinedMode :=
  [lenient, chainable, strict].find? (·.name = name)

namespace UndefinedMode

open Template

/-- Lets a value pass that a strict mode allows to be used. -/
def require (mode : UndefinedMode) (v : Value) : Except Fault Unit :=
  match mode, v with
  | .strict, .undefined false => .error { kind := .undefinedValue }
  | _, _ => .ok ()

def absentPart (mode : UndefinedMode) (v : Value) : Except Fault Value :=
  if v.isUndefined && mode ≠ .chainable then .error { kind := .undefinedValue }
  else .ok .missing

def truth (mode : UndefinedMode) (v : Value) : Except Fault Bool :=
  (mode.require v).map fun _ => v.isTrue

def iterate (mode : UndefinedMode) (v : Value) : Except Fault (List Value) := do
  mode.require v
  match v.items? with
  | some items => .ok items
  | none => .error { kind := .invalidOperation }

end UndefinedMode

end Folio
