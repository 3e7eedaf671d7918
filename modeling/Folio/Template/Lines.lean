/-
The lines that failures are reported on.

Reading a template from front to back keeps a current line: a name, a literal, a list, a
map, a negation, a condition and every tag move it to where they start, and an operator
leaves it where its last operand put it.  A failing node is reported on the line that is
current once its operands have been read, so that a filter or an operator on a new line is
reported where its subject stands.  `withLines` writes this line into every node.

Positional arguments come before named ones here, whatever their order in the source,
because they are evaluated first.
-/
import Folio.Template.Syntax

namespace Folio.Template

def Expr.isConst : Expr → Bool
  | .const .. => true
  | _ => false

/-- Whether an expression is a number, possibly behind signs. -/
def Expr.isNumber : Expr → Bool
  | .const _ (.int _) | .const _ (.float _) => true
  | .unary _ .neg e => e.isNumber
  | _ => false

/-- Whether a value is known before the template runs: a literal, a list or a map of
literals, a number behind signs, or the negation of such a value. -/
def Expr.isFixed : Expr → Bool
  | .const .. => true
  | .list _ items => items.all Expr.isConst
  | .map _ entries => entries.all fun e => e.1.isConst && e.2.isConst
  | .unary _ .not e => e.isFixed
  | .unary _ .neg e => e.isNumber
  | _ => false

/-- Whether the values of all named arguments are literals; these are not read again. -/
def namedAreConst (named : List (Option String × Expr)) : Bool :=
  named.all fun a => a.1.isSome && a.2.isConst

mutual

/-- An expression, read at the given current line, with its lines; also the line that is
current after it. -/
def Expr.withLines (here : Nat) : Expr → Expr × Nat
  | .const l v => (.const l v, l)
  | .var l name => (.var l name, l)
  | .unary l op e =>
    if (Expr.unary l op e).isFixed then (.unary l op e, l)
    else
      let (e, after) := e.withLines l
      match op with
      | .not => (.unary after .not e, after)
      | .neg => (.unary l .neg e, after)
  | .binary _ op a b =>
    let (a, between) := a.withLines here
    let (b, after) := b.withLines between
    match op with
    | .and | .or => (.binary between op a b, after)
    | _ => (.binary after op a b, after)
  | .chain _ first links =>
    let (first, after) := first.withLines here
    let (links, after) := linksWithLines after links
    (.chain after first links, after)
  | .cond l test yes no =>
    let (test, tested) := test.withLines l
    let (yes, after) := yes.withLines tested
    let (no, after) := optionWithLines after no
    (.cond tested test yes no, after)
  | .attr _ e name =>
    let (e, after) := e.withLines here
    (.attr after e name, after)
  | .item _ e i =>
    let (e, after) := e.withLines here
    let (i, after) := i.withLines after
    (.item after e i, after)
  | .slice _ e start stop step =>
    let (e, after) := e.withLines here
    let (start, after) := optionWithLines after start
    let (stop, after) := optionWithLines after stop
    let (step, after) := optionWithLines after step
    (.slice after e start stop step, after)
  | .call l callee args named =>
    match callee with
    | .var cl name =>
      let (args, after) := argsWithLines l args
      let fixed := namedAreConst named
      let (named, last) := namedWithLines after named
      let after := if fixed then after else last
      (.call after (.var cl name) args named, after)
    | .attr cl (.var ol "self") name =>
      (.call l (.attr cl (.var ol "self") name) args named, l)
    | .attr _ object name =>
      let (object, after) := object.withLines here
      let (args, after) := argsWithLines after args
      let fixed := namedAreConst named
      let (named, last) := namedWithLines after named
      let after := if fixed then after else last
      (.call after (.attr after object name) args named, after)
    | callee =>
      let (callee, after) := callee.withLines here
      let (args, after) := argsWithLines after args
      let fixed := namedAreConst named
      let (named, last) := namedWithLines after named
      let after := if fixed then after else last
      (.call after callee args named, after)
  | .filter l name subject args named =>
    let (subject, after) := optionWithLines l subject
    let (args, after) := argsWithLines after args
    let fixed := namedAreConst named
    let (named, last) := namedWithLines after named
    let after := if fixed then after else last
    (.filter after name subject args named, after)
  | .test _ name subject args named =>
    let (subject, after) := subject.withLines here
    let (args, after) := argsWithLines after args
    let fixed := namedAreConst named
    let (named, last) := namedWithLines after named
    let after := if fixed then after else last
    (.test after name subject args named, after)
  | .list l items =>
    if items.all Expr.isConst then (.list l items, l)
    else
      let (items, after) := listWithLines l items
      (.list after items, after)
  | .map l entries =>
    if entries.all fun e => e.1.isConst && e.2.isConst then (.map l entries, l)
    else
      let (entries, after) := entriesWithLines l entries
      (.map after entries, after)

def optionWithLines (here : Nat) : Option Expr → Option Expr × Nat
  | none => (none, here)
  | some e =>
    let (e, after) := e.withLines here
    (some e, after)

def listWithLines (here : Nat) : List Expr → List Expr × Nat
  | [] => ([], here)
  | e :: rest =>
    let (e, after) := e.withLines here
    let (rest, after) := listWithLines after rest
    (e :: rest, after)

def linksWithLines (here : Nat) : List (Link × Expr) → List (Link × Expr) × Nat
  | [] => ([], here)
  | (link, e) :: rest =>
    let (e, after) := e.withLines here
    let (rest, last) := linksWithLines after rest
    (({ link with line := after }, e) :: rest, last)

def argsWithLines (here : Nat) : List (ArgStyle × Expr) → List (ArgStyle × Expr) × Nat
  | [] => ([], here)
  | (style, e) :: rest =>
    let (e, after) := e.withLines here
    let (rest, after) := argsWithLines after rest
    ((style, e) :: rest, after)

def namedWithLines (here : Nat) :
    List (Option String × Expr) → List (Option String × Expr) × Nat
  | [] => ([], here)
  | (name, e) :: rest =>
    let (e, after) := e.withLines here
    let (rest, after) := namedWithLines after rest
    ((name, e) :: rest, after)

def entriesWithLines (here : Nat) : List (Expr × Expr) → List (Expr × Expr) × Nat
  | [] => ([], here)
  | (k, v) :: rest =>
    let (k, after) := k.withLines here
    let (v, after) := v.withLines after
    let (rest, after) := entriesWithLines after rest
    ((k, v) :: rest, after)

end

/-- A call that is reported on the given line.  A block is called before its arguments are
read and stays where it is. -/
def Expr.reportedOn (line : Nat) : Expr → Expr
  | .call l (.attr al (.var ol "self") name) args named =>
    .call l (.attr al (.var ol "self") name) args named
  | .call _ callee args named => .call line callee args named
  | e => e

mutual

/-- A target, stored to at the given current line, with its lines. -/
def Target.withLines (here : Nat) : Target → Target × Nat
  | .var l name => (.var l name, here)
  | .list l items =>
    let (items, after) := targetsWithLines l items
    (.list l items, after)
  | .attr _ object name =>
    let (object, after) := object.withLines here
    (.attr after object name, after)

def targetsWithLines (here : Nat) : List Target → List Target × Nat
  | [] => ([], here)
  | t :: rest =>
    let (t, after) := t.withLines here
    let (rest, after) := targetsWithLines after rest
    (t :: rest, after)

end

/-- The bindings of a `with` block, one after the other. -/
def bindingsWithLines (here : Nat) : List (Target × Expr) → List (Target × Expr) × Nat
  | [] => ([], here)
  | (t, e) :: rest =>
    let (e, after) := e.withLines here
    let (t, after) := t.withLines after
    let (rest, after) := bindingsWithLines after rest
    ((t, e) :: rest, after)

/-- The defaults of a macro's parameters, which are read from the last one to the first. -/
def defaultsWithLines (here : Nat) (defaults : List Expr) : List Expr × Nat :=
  let (defaults, after) := listWithLines here defaults.reverse
  (defaults.reverse, after)

mutual

/-- A statement, read at the given current line, with its lines; also the line that is
current after it. -/
def Stmt.withLines (here : Nat) : Stmt → Stmt × Nat
  | .text l s => (.text l s, l)
  | .emit l e =>
    match e with
    | .call start (.var cl "super") [] [] =>
      (.emit start (.call start (.var cl "super") [] []), l)
    | .call _ (.attr cl (.var ol "self") name) args named =>
      (.emit l (.call l (.attr cl (.var ol "self") name) args named), l)
    | e =>
      let (e, after) := e.withLines l
      (.emit after e, after)
  | .forLoop l target items filter recursive body orElse =>
    let (items, start) := items.withLines l
    let (target, unpacked) := target.withLines start
    let (filter, after) :=
      match filter with
      | none => (none, unpacked)
      | some (_, e) =>
        let (e, after) := e.withLines unpacked
        (some (after, e), after)
    let (body, after) := stmtsWithLines after body
    let (orElse, after) := stmtsWithLines after orElse
    (.forLoop start target items filter recursive body orElse, after)
  | .ifElse l test yes no =>
    let (test, tested) := test.withLines l
    let (yes, after) := stmtsWithLines tested yes
    let (no, after) := stmtsWithLines after no
    (.ifElse tested test yes no, after)
  | .withBlock l bindings body =>
    let (bindings, after) := bindingsWithLines l bindings
    let (body, after) := stmtsWithLines after body
    (.withBlock l bindings body, after)
  | .assign l target value =>
    let (value, after) := value.withLines l
    let (target, after) := target.withLines after
    (.assign after target value, after)
  | .capture l target filter body =>
    let (body, after) := stmtsWithLines l body
    let (filter, after) := optionWithLines after filter
    let (target, after) := target.withLines after
    (.capture l target filter body, after)
  | .autoEscape l enabled body =>
    let (enabled, start) := enabled.withLines l
    let (body, after) := stmtsWithLines start body
    (.autoEscape start enabled body, after)
  | .filterBlock l filter body =>
    let (body, after) := stmtsWithLines l body
    let (filter, after) := filter.withLines after
    (.filterBlock after filter body, after)
  | .block l name required body =>
    let (body, after) := stmtsWithLines l body
    (.block after name required body, after)
  | .extend l parent =>
    let (parent, after) := parent.withLines l
    (.extend l parent, after)
  | .include l step names ignoreMissing =>
    let (names, after) := names.withLines l
    (.include l step names ignoreMissing, after)
  | .importAs l step source target =>
    let (source, after) := source.withLines here
    let (target, after) := target.withLines after
    (.importAs l step source target, after)
  | .importNames l step source names =>
    let (source, after) := source.withLines here
    let last := (names.getLast?.map (·.1.line)).getD after
    (.importNames l step source names, last)
  | .defMacro l name params defaults body =>
    let (defaults, after) := defaultsWithLines l defaults
    let (body, after) := stmtsWithLines after body
    (.defMacro l name params defaults body, after)
  | .callBlock l call params defaults body =>
    let (call, _) := call.withLines l
    let (defaults, after) := defaultsWithLines l defaults
    let (body, after) := stmtsWithLines after body
    (.callBlock after (call.reportedOn after) params defaults body, after)
  | .eval l call =>
    let (call, after) := call.withLines l
    (.eval l call, after)

def stmtsWithLines (here : Nat) : List Stmt → List Stmt × Nat
  | [] => ([], here)
  | s :: rest =>
    let (s, after) := s.withLines here
    let (rest, after) := stmtsWithLines after rest
    (s :: rest, after)

end

/-- The statements of a template, each node with the line that it is reported on. -/
def withLines (body : List Stmt) : List Stmt :=
  (stmtsWithLines 1 body).1

end Folio.Template
