/-
The names that a template reads without giving them a value itself.

A name is free if some lookup of it is met before anything in scope has bound it.  Loops,
branches, `with`, blocks, macros and the other tags with a body are scopes of their own:
what they bind is forgotten after them.  The target of an assignment is bound before its
value is looked at, and so is the name of a macro before its body.  The expressions that
only name another template or a filter, and what a slice is taken of, are not looked at.
-/
import Folio.Template.Syntax

namespace Folio.Template

/-- The names in scope and the free names found so far. -/
structure Names where
  bound : List String := []
  free : List String := []
  deriving Inhabited

namespace Names

def bind (s : Names) (name : String) : Names := { s with bound := name :: s.bound }

def look (s : Names) (name : String) : Names :=
  if name ∈ s.bound || name ∈ s.free then s else { s with free := name :: s.free }

def leave (s inner : Names) : Names := { s with free := inner.free }

end Names

mutual

def Expr.names (s : Names) : Expr → Names
  | .const .. => s
  | .var _ name => s.look name
  | .unary _ _ e => e.names s
  | .binary _ _ a b => b.names (a.names s)
  | .chain _ first links => linksNames (first.names s) links
  | .cond _ test yes no => optionNames (yes.names (test.names s)) no
  | .attr _ e _ => e.names s
  | .item _ e i => i.names (e.names s)
  | .slice _ _ start stop step => optionNames (optionNames (optionNames s start) stop) step
  | .call _ callee args named => namedNames (argsNames (callee.names s) args) named
  | .filter _ _ subject args named => namedNames (argsNames (optionNames s subject) args) named
  | .test _ _ subject args named => namedNames (argsNames (subject.names s) args) named
  | .list _ items => listNames s items
  | .map _ entries => entriesNames s entries

def optionNames (s : Names) : Option Expr → Names
  | none => s
  | some e => e.names s

def listNames (s : Names) : List Expr → Names
  | [] => s
  | e :: rest => listNames (e.names s) rest

def linksNames (s : Names) : List (Link × Expr) → Names
  | [] => s
  | (_, e) :: rest => linksNames (e.names s) rest

def argsNames (s : Names) : List (ArgStyle × Expr) → Names
  | [] => s
  | (_, e) :: rest => argsNames (e.names s) rest

def namedNames (s : Names) : List (Option String × Expr) → Names
  | [] => s
  | (_, e) :: rest => namedNames (e.names s) rest

def entriesNames (s : Names) : List (Expr × Expr) → Names
  | [] => s
  | (k, v) :: rest => entriesNames (v.names (k.names s)) rest

end

mutual

/-- Binds the names of a target.  An assignment to an attribute binds nothing. -/
def Target.bind (s : Names) : Target → Names
  | .var _ name => s.bind name
  | .list _ items => bindTargets s items
  | .attr .. => s

def bindTargets (s : Names) : List Target → Names
  | [] => s
  | t :: rest => bindTargets (t.bind s) rest

end

def bindingsNames (s : Names) : List (Target × Expr) → Names
  | [] => s
  | (t, e) :: rest => bindingsNames (e.names (t.bind s)) rest

mutual

def Stmt.names (s : Names) : Stmt → Names
  | .text .. => s
  | .emit _ e => e.names s
  | .forLoop _ target items filter _ body orElse =>
    let inner := target.bind (items.names (s.bind "loop"))
    let inner := optionNames inner (filter.map (·.2))
    let s := s.leave (stmtsNames inner body)
    s.leave (stmtsNames s orElse)
  | .ifElse _ test yes no =>
    let s := test.names s
    let s := s.leave (stmtsNames s yes)
    s.leave (stmtsNames s no)
  | .withBlock _ bindings body => s.leave (stmtsNames (bindingsNames s bindings) body)
  | .assign _ target value => value.names (target.bind s)
  | .capture _ target _ body =>
    let s := target.bind s
    s.leave (stmtsNames s body)
  | .autoEscape _ _ body => s.leave (stmtsNames s body)
  | .filterBlock _ _ body => s.leave (stmtsNames s body)
  | .block _ _ _ body => s.leave (stmtsNames (s.bind "super") body)
  | .extend .. => s
  | .include .. => s
  | .importAs _ _ _ target => target.bind s
  | .importNames _ _ _ names => bindTargets s (names.map fun n => n.2.getD n.1)
  | .defMacro _ name params defaults body =>
    let s := s.bind name
    s.leave (stmtsNames (listNames (params.foldl Names.bind (s.bind "caller")) defaults) body)
  | .callBlock _ call params defaults body =>
    let s := call.names s
    s.leave (stmtsNames (listNames (params.foldl Names.bind (s.bind "caller")) defaults) body)
  | .eval _ call => call.names s

def stmtsNames (s : Names) : List Stmt → Names
  | [] => s
  | stmt :: rest => stmtsNames (stmt.names s) rest

end

/-- The names that a template reads without binding them. -/
def freeNames (body : List Stmt) : List String :=
  (stmtsNames (Names.bind {} "self") body).free

/-- The names that a macro reads from its surroundings; `caller` is one of them if the
macro calls the body of a call block. -/
def macroFreeNames (params : List String) (defaults : List Expr) (body : List Stmt) :
    List String :=
  (stmtsNames (listNames (params.foldl Names.bind {}) defaults) body).free

end Folio.Template
