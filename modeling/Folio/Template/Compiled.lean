/-
Templates that are ready to be executed.
-/
import Folio.Template.Calls
import Folio.Template.Parser
import Folio.Template.Steps

namespace Folio

namespace Template

mutual

/-- The blocks that a statement defines, each before those that are nested in it. -/
def Stmt.blocks : Stmt → List (String × List Stmt)
  | .block _ name _ body => (name, body) :: stmtsBlocks body
  | .forLoop _ _ _ _ _ body orElse => stmtsBlocks body ++ stmtsBlocks orElse
  | .ifElse _ _ yes no => stmtsBlocks yes ++ stmtsBlocks no
  | .withBlock _ _ body => stmtsBlocks body
  | .capture _ _ _ body => stmtsBlocks body
  | .autoEscape _ _ body => stmtsBlocks body
  | .filterBlock _ _ body => stmtsBlocks body
  | _ => []

def stmtsBlocks : List Stmt → List (String × List Stmt)
  | [] => []
  | s :: rest => s.blocks ++ stmtsBlocks rest

end

end Template

/-- A template that is ready to be executed. -/
structure Template where
  name : String
  source : String
  body : List Template.Stmt
  /-- The lines of the steps that the body takes. -/
  steps : List Nat
  deriving Inhabited

namespace Template

/-- Reads a template; a failure is attributed to its name. -/
def compile (name source : String) : Except Error Template :=
  match parse source with
  | .ok body =>
    let (body, steps) := withSteps (withLines body)
    .ok { name, source, body, steps }
  | .error (kind, line) => .error (.located { kind } name line)

/-- The line of a step of a template; the last step stands for those that do not exist. -/
def lineOfStep? (t : Template) (step : Nat) : Option Nat := t.steps[step]? <|> t.steps.getLast?

def blocks (t : Template) : List (String × List Stmt) := stmtsBlocks t.body

/-- The names that the template calls without declaring them. -/
def freeCalls (t : Template) : List String :=
  (freeNames t.body).filter (calledNames t.source).contains

end Template

end Folio
