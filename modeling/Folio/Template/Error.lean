/-
Failures of templates: what went wrong, and in which line of which template.
-/
namespace Folio.Template

/-- What went wrong while a template was compiled or executed. -/
inductive ErrorKind where
  | syntaxError
  | badEscape
  | templateNotFound
  | invalidOperation
  | undefinedValue
  | cannotUnpack
  | missingArgument
  | tooManyArguments
  | unknownFunction
  | unknownMethod
  | unknownFilter
  | unknownTest
  | unknownBlock
  | badInclude
  | blockFailed
  deriving DecidableEq, Inhabited, Repr

def ErrorKind.name : ErrorKind → String
  | .syntaxError => "SyntaxError"
  | .badEscape => "BadEscape"
  | .templateNotFound => "TemplateNotFound"
  | .invalidOperation => "InvalidOperation"
  | .undefinedValue => "UndefinedError"
  | .cannotUnpack => "CannotUnpack"
  | .missingArgument => "MissingArgument"
  | .tooManyArguments => "TooManyArguments"
  | .unknownFunction => "UnknownFunction"
  | .unknownMethod => "UnknownMethod"
  | .unknownFilter => "UnknownFilter"
  | .unknownTest => "UnknownTest"
  | .unknownBlock => "UnknownBlock"
  | .badInclude => "BadInclude"
  | .blockFailed => "EvalBlock"

/-- A failure that has not been located yet; one that was caused by another failure names
the kind of the cause. -/
structure Fault where
  kind : ErrorKind
  cause : Option ErrorKind := none
  deriving DecidableEq, Inhabited, Repr

/-- One failure and where it is attributed to. -/
structure Origin where
  kind : ErrorKind
  template : Option String := none
  line : Option Nat := none
  deriving DecidableEq, Inhabited, Repr

/-- A failure; one that was caused by another failure, inside an included template or an
overridden block, names the innermost cause as its root. -/
structure Error where
  origin : Origin
  root : Option Origin := none
  deriving DecidableEq, Inhabited, Repr

namespace Error

def located (fault : Fault) (template : String) (line : Nat) : Error where
  origin := { kind := fault.kind, template := some template, line := some line }
  root := fault.cause.map fun kind => { kind }

/-- The failure of a part, seen from the statement that ran it. -/
def causing (inner : Error) (kind : ErrorKind) (template : String) (line : Nat) : Error :=
  { origin := { kind, template := some template, line := some line }
    root := some (inner.root.getD inner.origin) }

/-- The text that stands for a failure: its kind between angle brackets. -/
def text (e : Error) : String := "<" ++ e.origin.kind.name ++ ">"

end Error

end Folio.Template
