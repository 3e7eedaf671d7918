/-
The steps in which a template is executed.

A template is executed step by step: one step for every value that is looked up, for every
operator, for every choice of a way to go on.  The body of a block has steps of its own.

A template that is included too deep fails when it has already taken the place of the one
that includes it, but has made no step yet.  The failure is reported on the line of that
step of its which has the number of the inclusion.  `withSteps` writes this number into
every inclusion and lists the lines of the steps; it takes a tree that has the lines of
`withLines`.
-/
import Folio.Template.Lines
import Folio.Template.Scope

namespace Folio.Template

/-- The line of the last step, or the given one if there is none. -/
def lastLine (here : Nat) (steps : List Nat) : Nat := steps.getLast?.getD here

def isSpread (arg : ArgStyle × Expr) : Bool := arg.1 = .spread

/-- The steps that put the arguments by position together once all arguments are known, if
some of them are spread out: the last ones into a bundle, with the named ones if there are
any, and the bundles into one. -/
def gatherSteps (line : Nat) (args : List (ArgStyle × Expr)) (noneNamed : Bool) : List Nat :=
  if !args.any isSpread then []
  else if !noneNamed || !args.getLast?.any isSpread then [line, line]
  else [line]

/-- The steps that put the named arguments together; those that are spread out are bundles. -/
def bindSteps (line : Nat) (named : List (Option String)) : List Nat :=
  if named.all Option.isSome then [line]
  else if named.getLast?.any Option.isSome then [line, line]
  else [line]

/-- The steps of named arguments, given those of their values; arguments that are all literals
are one value. -/
def namedSteps (line : Nat) (named : List (Option String × Expr)) (values : List Nat) :
    List Nat :=
  if named.isEmpty then []
  else if namedAreConst named then [line]
  else values ++ bindSteps line (named.map (·.1))

mutual

def Expr.steps : Expr → List Nat
  | .const l _ | .var l _ => [l]
  | .unary l op e => if (Expr.unary l op e).isFixed then [l] else e.steps ++ [l]
  | .binary l op a b =>
    match op with
    | .and | .or => a.steps ++ l :: b.steps
    | _ => a.steps ++ b.steps ++ [l]
  | .chain _ first links => first.steps ++ linkSteps links
  | .cond l test yes no =>
    let yes := yes.steps
    test.steps ++ l :: yes ++ lastLine l yes :: optionSteps (lastLine l yes) no
  | .attr l e _ => e.steps ++ [l]
  | .item l e i => e.steps ++ i.steps ++ [l]
  | .slice l e start stop step =>
    e.steps ++ optionSteps l start ++ optionSteps l stop ++ optionSteps l step ++ [l]
  | .call l callee args named =>
    match callee with
    | .attr _ (.var _ "self") _ => [l, l, l]
    | .var .. =>
      argSteps l false args ++ namedSteps l named (namedValueSteps l false named) ++
        gatherSteps l args named.isEmpty ++ [l]
    | .attr _ object _ =>
      object.steps ++ argSteps l true args ++ namedSteps l named (namedValueSteps l false named) ++
        gatherSteps l args named.isEmpty ++ [l]
    | callee =>
      callee.steps ++ argSteps l true args ++ namedSteps l named (namedValueSteps l false named) ++
        gatherSteps l args named.isEmpty ++ [l]
  | .filter l _ subject args named =>
    subjectSteps subject ++ argSteps l true args ++
      namedSteps l named (namedValueSteps l false named) ++ gatherSteps l args named.isEmpty ++ [l]
  | .test l _ subject args named =>
    subject.steps ++ argSteps l true args ++
      namedSteps l named (namedValueSteps l false named) ++ gatherSteps l args named.isEmpty ++ [l]
  | .list l items =>
    if items.all Expr.isConst then [l] else listSteps items ++ [l]
  | .map l entries =>
    if entries.all fun e => e.1.isConst && e.2.isConst then [l] else entrySteps entries ++ [l]

def subjectSteps : Option Expr → List Nat
  | none => []
  | some e => e.steps

/-- The steps of a part that may be left out; what stands in for it takes one as well. -/
def optionSteps (here : Nat) : Option Expr → List Nat
  | none => [here]
  | some e => e.steps

def listSteps : List Expr → List Nat
  | [] => []
  | e :: rest => e.steps ++ listSteps rest

def linkSteps : List (Link × Expr) → List Nat
  | [] => []
  | (link, e) :: rest => e.steps ++ link.line :: linkSteps rest

/-- The steps of arguments by position; `filling` tells whether a bundle has been begun when
one comes that is spread out. -/
def argSteps (line : Nat) (filling : Bool) : List (ArgStyle × Expr) → List Nat
  | [] => []
  | (.single, e) :: rest => e.steps ++ argSteps line true rest
  | (.spread, e) :: rest =>
    if filling then line :: e.steps ++ argSteps line false rest
    else e.steps ++ argSteps line false rest

/-- The steps of the values of named arguments, each behind one for its name. -/
def namedValueSteps (line : Nat) (filling : Bool) : List (Option String × Expr) → List Nat
  | [] => []
  | (some _, e) :: rest => line :: e.steps ++ namedValueSteps line true rest
  | (none, e) :: rest =>
    if filling then line :: e.steps ++ namedValueSteps line false rest
    else e.steps ++ namedValueSteps line false rest

def entrySteps : List (Expr × Expr) → List Nat
  | [] => []
  | (k, v) :: rest => k.steps ++ v.steps ++ entrySteps rest

end

mutual

def Target.steps : Target → List Nat
  | .var l _ => [l]
  | .list l items => l :: targetSteps items
  | .attr l object _ => object.steps ++ [l]

def targetSteps : List Target → List Nat
  | [] => []
  | t :: rest => t.steps ++ targetSteps rest

end

def bindingSteps (bindings : List (Target × Expr)) : List Nat :=
  bindings.flatMap fun b => b.2.steps ++ b.1.steps

/-- The steps of a call before those of the body that is passed along, and the ones behind. -/
def Expr.stepsAround : Expr → List Nat × List Nat
  | .call l callee args named =>
    let values := namedValueSteps l false named ++ [l]
    let last := bindSteps l (named.map (·.1) ++ [some "caller"]) ++ gatherSteps l args false ++ [l]
    match callee.callee with
    | .block _ => ([l, l, l], [])
    | .named _ => (argSteps l false args ++ values, last)
    | .method object _ => (object.steps ++ argSteps l true args ++ values, last)
    | .value e => (e.steps ++ argSteps l true args ++ values, last)
  | e => (e.steps, [])

def emitSteps (line : Nat) : Expr → List Nat
  | .call _ (.var _ "super") [] [] => [line]
  | .call _ (.attr _ (.var _ "self") _) _ _ => [line]
  | e => e.steps ++ [line]

/-- The steps that give the parameters of a macro their values, the last one first. -/
def paramSteps (line : Nat) (params : List String) (defaults : List Expr) : List Nat :=
  let given := List.replicate (params.length - defaults.length) []
  let filled := defaults.map fun e => line :: line :: line :: line :: e.steps
  (given ++ filled).reverse.flatMap (· ++ [line])

/-- The steps that make a macro a value, once its body has been passed over. -/
def enclosingSteps (line : Nat) (params : List String) (defaults : List Expr)
    (body : List Stmt) : List Nat :=
  let taken := (macroFreeNames params defaults body).filter (· ≠ "caller")
  line :: taken.map (fun _ => line) ++ [line, line, line]

mutual

/-- A statement whose first step has the given number, with the numbers of its inclusions;
also the lines of its steps. -/
def Stmt.withSteps (start : Nat) : Stmt → Stmt × List Nat
  | .text l s => (.text l s, [l])
  | .emit l e => (.emit l e, emitSteps l e)
  | .forLoop l target items filter recursive body orElse =>
    let choice :=
      match filter with
      | none => items.steps
      | some (fl, test) =>
        l :: items.steps ++ l :: l :: l :: target.steps ++ test.steps ++
          [fl, fl, fl, fl, fl, fl, fl, fl, fl]
    let head := choice ++ l :: l :: target.steps
    let (body, inner) := stmtsWithSteps (start + head.length) body
    let here := lastLine l inner
    if orElse.isEmpty then
      (.forLoop l target items filter recursive body orElse, head ++ inner ++ [here, here])
    else
      let head := head ++ inner ++ [here, here, here, here]
      let (orElse, inner) := stmtsWithSteps (start + head.length) orElse
      (.forLoop l target items filter recursive body orElse, head ++ inner)
  | .ifElse l test yes no =>
    let head := test.steps ++ [l]
    let (yes, inner) := stmtsWithSteps (start + head.length) yes
    if no.isEmpty then (.ifElse l test yes no, head ++ inner)
    else
      let head := head ++ inner ++ [lastLine l inner]
      let (no, inner) := stmtsWithSteps (start + head.length) no
      (.ifElse l test yes no, head ++ inner)
  | .withBlock l bindings body =>
    let head := l :: bindingSteps bindings
    let (body, inner) := stmtsWithSteps (start + head.length) body
    (.withBlock l bindings body, head ++ inner ++ [lastLine l (head ++ inner)])
  | .assign l target value => (.assign l target value, value.steps ++ target.steps)
  | .capture l target filter body =>
    let (body, inner) := stmtsWithSteps (start + 1) body
    (.capture l target filter body,
      l :: inner ++ lastLine l inner :: subjectSteps filter ++ target.steps)
  | .autoEscape l enabled body =>
    let head := enabled.steps ++ [l]
    let (body, inner) := stmtsWithSteps (start + head.length) body
    (.autoEscape l enabled body, head ++ inner ++ [lastLine l inner])
  | .filterBlock l filter body =>
    let (body, inner) := stmtsWithSteps (start + 1) body
    (.filterBlock l filter body, l :: inner ++ lastLine l inner :: filter.steps ++ [l])
  | .block l name required body =>
    let (body, _) := stmtsWithSteps 0 body
    (.block l name required body, [l])
  | .extend l parent => (.extend l parent, parent.steps ++ [l])
  | .include l _ names ignoreMissing =>
    (.include l (start + names.steps.length) names ignoreMissing, names.steps ++ [l])
  | .importAs l _ source target =>
    (.importAs l (start + 2 + source.steps.length) source target,
      l :: l :: source.steps ++ [l, l, l] ++ target.steps)
  | .importNames l _ source names =>
    (.importNames l (start + 2 + source.steps.length) source names,
      l :: l :: source.steps ++ l :: names.flatMap (fun n => n.1.steps) ++
        l :: names.reverse.flatMap (fun n => (n.2.getD n.1).steps) ++ [l])
  | .defMacro l name params defaults body =>
    let head := l :: paramSteps l params defaults
    let (body, inner) := stmtsWithSteps (start + head.length) body
    let here := lastLine l inner
    (.defMacro l name params defaults body,
      head ++ inner ++ enclosingSteps here params defaults body ++ [here])
  | .callBlock l call params defaults body =>
    let (before, behind) := call.stepsAround
    let head := before ++ l :: paramSteps l params defaults
    let (body, inner) := stmtsWithSteps (start + head.length) body
    (.callBlock l call params defaults body,
      head ++ inner ++ enclosingSteps (lastLine l inner) params defaults body ++ behind ++ [l])
  | .eval l call => (.eval l call, call.steps)

def stmtsWithSteps (start : Nat) : List Stmt → List Stmt × List Nat
  | [] => ([], [])
  | s :: rest =>
    let (s, steps) := s.withSteps start
    let (rest, more) := stmtsWithSteps (start + steps.length) rest
    (s :: rest, steps ++ more)

end

/-- The statements of a template with the numbers of their inclusions, and the lines of the
steps of the template. -/
def withSteps (body : List Stmt) : List Stmt × List Nat := stmtsWithSteps 0 body

end Folio.Template
