/-
The execution of templates.

Expressions and statements are executed by recursion on fuel, which bounds how deep they
are nested in each other and in the templates, blocks and macros they call.  Every call
opens a frame or adds to the depth, both of which are limited, and between two calls the
nesting is that of a syntax tree; so `Template.fuel` is enough for all templates.
-/
import Folio.Template.Machine

namespace Folio.Template

open Run

/-- The values of a call's arguments: the named ones, if there are any, as one map behind
the others. -/
def withNamed (args : List Value) : Option (List (Value × Value)) → List Value
  | none => args
  | some named => args ++ [.named named]

/-- The positional arguments of a call and the named ones. -/
def splitNamed (args : List Value) : List Value × List (Value × Value) :=
  match args.getLast? with
  | some (.named entries) => (args.dropLast, entries)
  | _ => (args, [])

/-- How many numbers a range may have. -/
def rangeLimit : Nat := 100000

def rangeItems (mode : UndefinedMode) : List Value → Except Fault Value :=
  Taking.apply do
    let asInt := Taking.asInt (Number.fitsSigned 64)
    let first ← Taking.int mode
    let second ← Taking.optional asInt
    let step := (← Taking.optional asInt).getD 1
    let (lower, upper) :=
      match second with
      | some upper => (first, upper)
      | none => (0, first)
    let count :=
      if 0 < step then ((upper - lower + step - 1) / step).toNat
      else ((lower - upper - step - 1) / (-step)).toNat
    return if step = 0 || rangeLimit < count then .error { kind := .invalidOperation }
      else .ok (.stream true ((List.range count).map fun (i : Nat) => .int (lower + i * step)))

def dictOf : List Value → Except Fault Value :=
  Taking.apply do
    let first ← do
      match ← get with
      | .named _ :: _ => pure none
      | _ => Taking.next?
    let named ← Taking.named
    return match first with
      | none | some (.undefined _) | some .none => .ok (.map named)
      | some v =>
        match v.entries? with
        | some entries => .ok (.map (Value.entriesOf (entries ++ named)))
        | none => .error { kind := .invalidOperation }

def namespaceEntries : List Value → Except Fault (List (Value × Value)) :=
  Taking.apply do
    let first ← Taking.next?
    return match first with
      | none | some (.undefined _) | some .none => .ok []
      | some v =>
        match v.entries? with
        | some entries => .ok (entries.filter fun e => e.1.str?.isSome)
        | none => .error { kind := .invalidOperation }

/-- The places of the parameters of a macro together with their defaults, the last first. -/
def paramsFromLast (code : MacroCode) : List (String × Option Expr) :=
  let missing := code.params.length - code.defaults.length
  (code.params.zip (List.replicate missing none ++ code.defaults.map some)).reverse

def bindParams : List String → List Value → List (Value × Value) →
    Except Fault (List (String × Value))
  | [], _, _ => .ok []
  | name :: names, args, named => do
    let v ←
      match args, namedArg? name named with
      | _ :: _, some _ => throw { kind := .tooManyArguments }
      | v :: _, none => pure v
      | [], some v => pure v
      | [], none => pure .missing
    let rest ← bindParams names args.tail named
    return (name, v) :: rest

/-- The positional argument values and the `caller` that a macro is called with. -/
def macroArguments (code : MacroCode) (args : List Value) :
    Except Fault (List (String × Value) × Option Value) := do
  let (args, named) := splitNamed args
  if code.params.length < args.length then throw { kind := .tooManyArguments }
  let values ← bindParams code.params args named
  let known := if code.wantsCaller then "caller" :: code.params else code.params
  allowNamed known (named.filter fun e => e.1.str?.isSome)
  let caller := if code.wantsCaller then some ((namedArg? "caller" named).getD .missing) else none
  return (values, caller)

def includeChoices (v : Value) : List Value :=
  if v.isObject then (v.items?).getD [] else [v]

/-- The value of a binary operator other than `and` and `or`. -/
def applyOperator (mode : UndefinedMode) (op : BinaryOp) (a b : Value) : Except Fault Value := do
  match op with
  | .add => Value.add a b
  | .sub => Value.sub a b
  | .mul => Value.mul a b
  | .div => Value.div a b
  | .floorDiv => Value.floorDiv a b
  | .rem => Value.rem a b
  | .pow => Value.pow a b
  | .concat => do
    mode.require a
    mode.require b
    return Value.concat a b
  | .mem => do
    mode.require a
    mode.require b
    return .bool (← Value.contains b a)
  | op => do
    mode.require a
    mode.require b
    return .bool (Value.comparison op a b)

/-- The outcome of a comparison between two operands, turned round on demand. -/
def compareLink (mode : UndefinedMode) (link : Link) (a b : Value) : Except Fault Bool := do
  let holds ← applyOperator mode link.op a b
  return holds.isTrue != link.negated

/-- Calls a block at its current level by running its body with `run`.  A block that is
`required` has to be overridden. -/
def callBlock (line : Nat) (name : String) (required : Bool) (run : List Stmt → Run Unit) :
    Run Unit := do
  let m ← get
  if m.parent.isSome || m.discarding then return ()
  match lookup? name m.blocks with
  | none => fail line .unknownBlock
  | some chain =>
    if required && chain.bodies.length ≤ 1 then fail line .invalidOperation
    match chain.bodies[chain.level]? with
    | none => fail line .unknownBlock
    | some (template, body) =>
      push line {}
      modify fun m => { m with template := template, block := some name }
      run body
      pop
      modify fun n => { n with template := m.template, block := m.block }

/-- Calls the definition of the current block that the current one overrides. -/
def callSuper (line : Nat) (run : List Stmt → Run Unit) : Run Unit := do
  let m ← get
  match m.block.bind fun name => (lookup? name m.blocks).map (name, ·) with
  | none => fail line .invalidOperation
  | some (name, chain) =>
    match chain.bodies[chain.level + 1]? with
    | none => fail line .invalidOperation
    | some (template, body) =>
      let raised := setBlock name { chain with level := chain.level + 1 } m.blocks
      push line {}
      modify fun m => { m with template := template, blocks := raised }
      try run body
      catch e => throw (e.causing .blockFailed m.template line)
      pop
      modify fun n => { n with template := m.template, blocks := m.blocks }
where
  setBlock (name : String) (chain : BlockChain) :
      List (String × BlockChain) → List (String × BlockChain)
    | [] => []
    | (n, c) :: rest =>
      if n = name then (n, chain) :: rest else (n, c) :: setBlock name chain rest

/-- The blocks of a template as chains of one definition. -/
def chainsOf (t : Template) : List (String × BlockChain) :=
  t.blocks.map fun b => (b.1, { bodies := [(t.name, b.2)] })

/-- The chains with the blocks of a parent behind their definitions. -/
def extendChains (parent : Template) (chains : List (String × BlockChain)) :
    List (String × BlockChain) :=
  parent.blocks.foldl (fun chains b =>
    match lookup? b.1 chains with
    | some chain =>
      (b.1, { chain with bodies := chain.bodies ++ [(parent.name, b.2)] }) ::
        chains.filter (·.1 ≠ b.1)
    | none => (b.1, { bodies := [(parent.name, b.2)] }) :: chains) chains

/-- Makes the current template extend the one of the given name. -/
def loadParent (line : Nat) (v : Value) : Run Unit := do
  let m ← get
  if m.parent.isSome then fail line .invalidOperation
  match v.str? with
  | none => fail line .invalidOperation
  | some name =>
    if name ∈ m.loaded then fail line .invalidOperation
    else
      match (← read).templates.get? name with
      | none => fail line .templateNotFound
      | some t =>
        set { m with
          loaded := name :: m.loaded, parent := some t, discarding := true
          blocks := extendChains t m.blocks }

/-- The failure of a template that is included too deep in the step of the given number. -/
def tooDeep (t : Template) (step : Nat) : Error :=
  match t.lineOfStep? step with
  | some line => .located { kind := .invalidOperation } t.name line
  | none => { origin := { kind := .invalidOperation } }

def runIncluded (line step : Nat) (t : Template) (run : List Stmt → Run Unit) : Run Unit := do
  let m ← get
  if depthLimit < m.depth + includeDepth + m.frames.length then throw (tooDeep t step)
  let frames :=
    match m.frames with
    | [] => []
    | f :: rest => { f with closure := none } :: rest
  set { m with
    frames := frames, depth := m.depth + includeDepth, template := t.name
    blocks := chainsOf t, escape := .ofName t.name }
  try run t.body
  catch e => throw (e.causing .badInclude m.template line)
  modify fun n => { n with
    frames := match n.frames, m.frames with
      | f :: rest, g :: _ => { f with closure := g.closure } :: rest
      | frames, _ => frames
    depth := m.depth, template := m.template, blocks := m.blocks, escape := m.escape
    loaded := m.loaded }

/-- Includes the first of the named templates that exists. -/
def includeFirst (line step : Nat) (ignoreMissing : Bool) (run : List Stmt → Run Unit) :
    Bool → List Value → Run Unit
  | tried, [] => if tried && !ignoreMissing then fail line .templateNotFound else return ()
  | _, v :: rest => do
    match v.str? with
    | none => fail line .invalidOperation
    | some name =>
      match (← read).templates.get? name with
      | some t => runIncluded line step t run
      | none => includeFirst line step ignoreMissing run true rest

def currentLoop? (m : Machine) : Option Nat := m.frames.findSome? (·.loop)

/-- Runs a step for each item in the frame of a new loop.  What a step stores in the frame is
gone with the next item, except for the names that macros took along. -/
def runLoop (line : Nat) (length : Option Nat) (again : Option LoopCode) (items : List Value)
    (step : Value → Run Unit) : Run Unit := do
  let m ← get
  let depth :=
    match (currentLoop? m).bind (m.loops[·]?) with
    | some l => if l.again.isSome then l.depth + 1 else 0
    | none => 0
  let id := m.loops.size
  set { m with loops := m.loops.push { length, depth, again, next := items.head? } }
  push line { loop := some id }
  iterate id none 0 items
  pop
where
  iterate (id : Nat) : Option Value → Nat → List Value → Run Unit
    | previous, index, [] =>
      modify fun m => { m with loops := m.loops.modify id fun l => { l with index, previous } }
    | previous, index, v :: rest => do
      modify fun m => { m with
        frames := { loop := some id, closure := m.frames.head?.bind (·.closure) } :: m.frames.tail
        loops := m.loops.modify id fun l => { l with index, previous, next := rest.head? } }
      step v
      iterate id (some v) (index + 1) rest

/-- Starts a loop again with other items, by running `step` for each of them.  What is no
collection is the fault of the loop, and so is a nesting that is too deep; the failure names
the line of the call as well. -/
def recurse (line : Nat) (id : Nat) (items : Value)
    (step : LoopCode → Value → Run Unit) : Run Unit := do
  let m ← get
  match (m.loops[id]?).bind (·.again) with
  | none => fail line .invalidOperation
  | some code =>
    let refuse {α : Type} (kind : ErrorKind) : Run α := throw
      { origin := { kind := .invalidOperation, template := some m.template, line := some line }
        root := some { kind, template := some m.template, line := some code.line } }
    let items ← opened items
    match (← read).mode.iterate items with
    | .error fault => refuse fault.kind
    | .ok values =>
      if !hasRoom m then refuse .invalidOperation
      runLoop line items.iterations? (some code) values (step code)
      if code.hasElse then leave (.bool values.isEmpty)

/-- The result of the method `changed` of a loop: whether it was last called with other
arguments. -/
def loopChanged (id : Nat) (args : List Value) : Run Value := do
  let seen := ((← get).loops[id]?).bind (·.seen)
  let same := (seen.map fun seen => Value.same (.list seen) (.list args)).getD false
  modify fun m => { m with loops := m.loops.modify id fun l => { l with seen := some args } }
  return .bool !same

/-- The result of the method `cycle` of a loop: its arguments in turn. -/
def loopCycle (id : Nat) (args : List Value) : Run Value := do
  let index := (((← get).loops[id]?).map (·.index)).getD 0
  return (args[index % args.length]?).getD .missing

def setAttr (line : Nat) (object : Value) (name : String) (v : Value) : Run Unit := do
  match object with
  | .space id =>
    modify fun m => { m with spaces := m.spaces.modify id (Value.bind (.text name) v) }
  | _ => fail line .invalidOperation

def newSpace (entries : List (Value × Value)) : Run Value := do
  let m ← get
  set { m with spaces := m.spaces.push (Value.entriesOf entries) }
  return .space m.spaces.size

/-- A macro of the current template, with the names it takes from its surroundings. -/
def newMacro (name : String) (params : List String) (defaults : List Expr) (body : List Stmt) :
    Run Value := do
  let free := macroFreeNames params defaults body
  let names ← enclose (free.filter (· ≠ "caller"))
  let template := (← get).template
  return .ofMacro { name, params, defaults, body, wantsCaller := free.contains "caller", template }
    names

/-- Runs a step with the frames of a macro in place of the open ones, and gives what it
writes. -/
def inMacro (line : Nat) (code : MacroCode) (names : Nat) (caller : Option Value)
    (step : Run Unit) : Run Value := do
  let m ← get
  let base : Frame := { backing := (m.frames.getLast?.map (·.backing)).getD .nothing }
  let start : Frame := { backing := .closure names }
  let depth := m.depth + m.frames.length + callDepth
  if depthLimit < depth + 2 then fail line .invalidOperation
  set { m with
    frames := [start, base], depth := depth, template := code.template, blocks := []
    block := none, parent := none, spill := [] }
  if let some caller := caller then store "caller" caller
  let result ← capturedValue step
  modify fun n => { n with
    frames := m.frames, depth := m.depth, template := m.template, blocks := m.blocks
    block := m.block, parent := m.parent, loaded := m.loaded, escape := m.escape
    spill := m.spill }
  return result

/-- The way in which output is escaped that a value asks for. -/
def escapeOf (v : Value) : Except Fault Escape :=
  match v with
  | .str "html" _ => .ok .html
  | .str "none" _ => .ok .none
  | .str .. => .error { kind := .invalidOperation }
  | v => .ok (if Value.same v (.bool true) then .html else .none)

/-- What the filters of the current template know about it. -/
def filterScope : Run FilterScope := do
  let m ← get
  return { mode := (← read).mode, escape := m.escape, outer := .ofName m.template }

def inPairs : List Value → List (Value × Value)
  | k :: v :: rest => (k, v) :: inPairs rest
  | _ => []

mutual

def evalExpr : Nat → Expr → Run Value
  | 0, e => fail e.line .invalidOperation
  | fuel + 1, e => do
    let mode := (← read).mode
    match e with
    | .const _ v => return .ofLiteral v
    | .var _ name => return (← lookupName? name).getD .missing
    | .unary line .not e => do
      let v ← settled (← evalExpr fuel e)
      return .bool !(← lift line (mode.truth v))
    | .unary line .neg e => do
      lift line (Value.neg (← evalExpr fuel e))
    | .binary line .and a b => do
      let v ← evalExpr fuel a
      if ← lift line (mode.truth (← settled v)) then evalExpr fuel b else return v
    | .binary line .or a b => do
      let v ← evalExpr fuel a
      if ← lift line (mode.truth (← settled v)) then return v else evalExpr fuel b
    | .binary line op a b => do
      let (v, w) ← operandPair (evalExpr fuel a) (evalExpr fuel b)
      lift line (applyOperator mode op (← settled v) (← settled w))
    | .chain _ first links => do
      let v ← evalExpr fuel first
      evalLinks fuel v links
    | .cond line test yes no => do
      let v ← settled (← evalExpr fuel test)
      if ← lift line (mode.truth v) then evalExpr fuel yes
      else
        match no with
        | some e => evalExpr fuel e
        | none => return .undefined true
    | .attr line e name => do
      let v ← evalExpr fuel e
      match (← opened v).attr? name with
      | some part => return part
      | none => lift line (mode.absentPart v)
    | .item line e i => do
      let (v, key) ← operandPair (evalExpr fuel e) (evalExpr fuel i)
      let key ← settled key
      match (← opened v).item? key with
      | some part => return part
      | none => lift line (mode.absentPart v)
    | .slice line e start stop step => do
      match ← operands [evalExpr fuel e, evalOption fuel start, evalOption fuel stop,
        evalOption fuel step] with
      | [v, start, stop, step] =>
        if v.isUndefined && mode = .strict then fail line .undefinedValue
        else lift line (v.slice start stop step)
      | _ => fail line .invalidOperation
    | .call line callee args named => evalCall fuel line callee args named none
    | .filter line name subject args named => do
      let subject := (subject.map (evalExpr fuel)).getD (return .missing)
      let args ← evalArgs fuel line [subject] args named none
      lift line (Filter.apply (← filterScope) name (← args.mapM settled))
    | .test line name subject args named => do
      let fresh := name = "sameas" && !(subject.isLookup && args.all (·.2.isLookup))
      let args ← evalArgs fuel line [evalExpr fuel subject] args named none
      let args ← args.mapM settled
      match Test.ofName? mode name with
      | some test =>
        let holds ← lift line (test args)
        return .bool (holds && !(fresh && args.any Value.isObject))
      | none => fail line .unknownTest
    | .list _ items => return .list (← operands (items.map (evalExpr fuel)))
    | .map _ entries => do
      let parts ← operands (entries.flatMap fun e => [evalExpr fuel e.1, evalExpr fuel e.2])
      return .map (Value.entriesOf (inPairs parts))

/-- The value of an end of a slice; `none` for one that is left open. -/
def evalOption : Nat → Option Expr → Run Value
  | 0, _ => fail 0 .invalidOperation
  | fuel + 1, e => do
    match e with
    | some e => evalExpr fuel e
    | none => return .none

/-- Whether a value compares with the operands that follow it; the first comparison that
does not hold ends the chain. -/
def evalLinks : Nat → Value → List (Link × Expr) → Run Value
  | 0, _, _ => fail 0 .invalidOperation
  | fuel + 1, v, links => do
    match links with
    | [] => return .bool true
    | (link, e) :: rest => do
      let (v, w) ← operandPair (pure v) (evalExpr fuel e)
      if ← lift link.line (compareLink (← read).mode link (← settled v) (← settled w)) then
        evalLinks fuel w rest
      else return .bool false

def evalChain : Nat → Expr → Value → Run Value
  | 0, e, _ => fail e.line .invalidOperation
  | fuel + 1, e, v => do
    match e with
    | .filter line name subject args named => do
      let v ←
        match subject with
        | some e => evalChain fuel e v
        | none => pure v
      let args ← evalArgs fuel line [pure v] args named none
      lift line (Filter.apply (← filterScope) name (← args.mapM settled))
    | _ => return v

/-- The values of some operands and of arguments behind them, positional ones first; a call
block passes its body along as the argument `caller`. -/
def evalArgs : Nat → Nat → List (Run Value) → List (ArgStyle × Expr) →
    List (Option String × Expr) → Option (List String × List Expr × List Stmt) →
    Run (List Value)
  | 0, line, _, _, _, _ => fail line .invalidOperation
  | fuel + 1, line, before, args, named, caller => do
    let stack ← operands (before ++ args.map fun a => evalExpr fuel a.2)
    let bindings ← named.mapM fun a => do
      let v ← evalExpr fuel a.2
      return (a.1, v)
    let callers ←
      match caller with
      | some (params, defaults, body) => do
        let v ← newMacro "caller" params defaults body
        pure [(Value.text "caller", v)]
      | none => pure []
    let entries ← bindings.mapM fun b => do
      match b.1 with
      | some name => return [(Value.text name, b.2)]
      | none =>
        match (← opened b.2).entries? with
        | some entries => return entries
        | none => fail line .invalidOperation
    let values ← ((args.map (·.1)).zip (stack.drop before.length)).mapM fun p => do
      match p.1 with
      | .single => return [p.2]
      | .spread =>
        match (← opened p.2).items? with
        | some items => return items
        | none => fail line .invalidOperation
    return stack.take before.length ++ withNamed values.flatten
      (if named.isEmpty && caller.isNone then none
        else some (Value.entriesOf (entries.flatten ++ callers)))

def evalCall : Nat → Nat → Expr → List (ArgStyle × Expr) → List (Option String × Expr) →
    Option (List String × List Expr × List Stmt) → Run Value
  | 0, line, _, _, _, _ => fail line .invalidOperation
  | fuel + 1, line, callee, args, named, caller => do
    match callee.callee with
    | .named "super" => do
      let args ← evalArgs fuel line [] args named caller
      if args.isEmpty then capturedValue (callSuper line (runUnit fuel))
      else fail line .invalidOperation
    | .named name => do
      let args ← evalArgs fuel line [] args named caller
      match ← lookupName? name, args with
      | none, _ => fail line .unknownFunction
      | some (.loop id), [items] =>
        capturedValue (recurse line id items (runIteration fuel))
      | some (.loop _), _ => fail line .invalidOperation
      | some v, args => callValue fuel line v args
    | .block name => capturedValue (callBlock line name false (runUnit fuel))
    | .method object name => do
      match ← evalArgs fuel line [evalExpr fuel object] args named caller, name with
      | .loop id :: args, "changed" => loopChanged id (← args.mapM settled)
      | .loop id :: args, "cycle" => loopCycle id args
      | .loop _ :: _, _ => fail line .unknownMethod
      | v :: args, name =>
        match (← opened v).attr? name with
        | some f => callValue fuel line f args
        | none => fail line .unknownMethod
      | [], _ => fail line .invalidOperation
    | .value e => do
      match ← evalArgs fuel line [evalExpr fuel e] args named caller with
      | v :: args => callValue fuel line v args
      | [] => fail line .invalidOperation

def runIteration : Nat → LoopCode → Value → Run Unit
  | 0, code, _ => fail code.line .invalidOperation
  | fuel + 1, code, v => do
    assign fuel code.target v
    runStmts fuel code.body

def callValue : Nat → Nat → Value → List Value → Run Value
  | 0, line, _, _ => fail line .invalidOperation
  | fuel + 1, line, v, args => do
    match v with
    | .function name => do
      let args ← args.mapM settled
      let env ← read
      match env.functions.get? name with
      | some entry => lift line (entry.call env.mode args)
      | none =>
        match name with
        | "range" => lift line (rangeItems env.mode args)
        | "dict" => lift line (dictOf args)
        | "namespace" => newSpace (← lift line (namespaceEntries args))
        -- What `debug` shows of its arguments or of the state is left out.
        | _ => return .text ""
    | .roled (.callable code names) _ => do
      let (values, caller) ← lift line (macroArguments code args)
      inMacro line code names caller do
        for (name, fallback) in paramsFromLast code do
          let v := (lookup? name values).getD .missing
          match v, fallback with
          | .undefined _, some e => store name (← evalExpr fuel e)
          | v, _ => store name v
        runUnit fuel code.body
    | .loop _ => fail line .unknownFunction
    | _ => fail line .invalidOperation

def assign : Nat → Target → Value → Run Unit
  | 0, t, _ => fail t.line .invalidOperation
  | fuel + 1, t, v => do
    match t with
    | .var _ name => store name v
    | .list line targets =>
      match (← opened v).members? with
      | none => fail line .cannotUnpack
      | some items =>
        if items.length = targets.length then
          for (t, v) in targets.zip items do assign fuel t v
        else fail line .cannotUnpack
    | .attr line object name => setAttr line (← evalExpr fuel object) name v

/-- Executes a body of statements that may extend a template, and then its parents. -/
def runUnit : Nat → List Stmt → Run Unit
  | 0, _ => fail 0 .invalidOperation
  | fuel + 1, body => do
    let outer ← get
    modify fun m => { m with parent := none, spill := [] }
    runStmts fuel body
    match (← get).parent with
    | some t => do
      modify fun m => { m with parent := none, discarding := outer.discarding, template := t.name }
      runUnit fuel t.body
    | none => pure ()
    modify fun m => { m with
      parent := outer.parent, discarding := outer.discarding, spill := outer.spill }

def runStmts : Nat → List Stmt → Run Unit
  | 0, _ => fail 0 .invalidOperation
  | fuel + 1, body => body.forM (runStmt fuel)

def runStmt : Nat → Stmt → Run Unit
  | 0, _ => fail 0 .invalidOperation
  | fuel + 1, s => do
    let mode := (← read).mode
    match s with
    | .text _ content => write content
    | .emit line e => do
      emit line (← evalExpr fuel e)
    | .forLoop line target items filter recursive body orElse => do
      let v ← opened (← evalExpr fuel items)
      let items ← lift line (mode.iterate v)
      let (items, length) ←
        match filter with
        | none => pure (items, v.iterations?)
        | some (filterLine, test) => do
          push line {}
          let kept ← items.filterM fun v => do
            assign fuel target v
            let passed ← settled (← evalExpr fuel test)
            lift filterLine (mode.truth passed)
          pop
          pure (kept, some kept.length)
      let code : LoopCode := { line, target, body, hasElse := !orElse.isEmpty }
      runLoop line length (if recursive then some code else none) items (runIteration fuel code)
      if items.isEmpty then runStmts fuel orElse
    | .ifElse line test yes no => do
      let v ← settled (← evalExpr fuel test)
      if ← lift line (mode.truth v) then runStmts fuel yes else runStmts fuel no
    | .withBlock line bindings body => do
      push line {}
      for (target, e) in bindings do
        assign fuel target (← evalExpr fuel e)
      runStmts fuel body
      pop
    | .assign _ target e => do
      assign fuel target (← evalExpr fuel e)
    | .capture _ target filter body => do
      let v ← capturedValue (runStmts fuel body)
      let v ←
        match filter with
        | some e => evalChain fuel e v
        | none => pure v
      assign fuel target v
    | .autoEscape line enabled body => do
      let v ← settled (← evalExpr fuel enabled)
      let escape ← lift line (escapeOf v)
      let outer := (← get).escape
      modify fun m => { m with escape := escape }
      runStmts fuel body
      modify fun m => { m with escape := outer }
    | .filterBlock line filter body => do
      let v ← capturedValue (runStmts fuel body)
      emit line (← evalChain fuel filter v)
    | .block line name required _ => callBlock line name required (runUnit fuel)
    | .extend line e => do
      loadParent line (← evalExpr fuel e)
    | .include line step e ignoreMissing => do
      let v ← evalExpr fuel e
      includeFirst line step ignoreMissing (runUnit fuel) false (includeChoices (← opened v))
    | .importAs line step e target => do
      push line {}
      let content ← captured do
        let v ← evalExpr fuel e
        includeFirst line step false (runUnit fuel) false (includeChoices (← opened v))
      let names := ((← get).frames.head?.map (·.names)).getD []
      pop
      let entries := Value.entriesOf (names.map fun n => (.text n.1, n.2))
      assign fuel target (.roled (.shown content) entries)
    | .importNames line step e names => do
      push line {}
      silently do
        let v ← evalExpr fuel e
        includeFirst line step false (runUnit fuel) false (includeChoices (← opened v))
      let values ← names.mapM fun n => do
        match n.1 with
        | .var _ name => return (← lookupName? name).getD .missing
        | _ => return .missing
      pop
      for (n, v) in (names.zip values).reverse do
        assign fuel (n.2.getD n.1) v
    | .defMacro _ name params defaults body => do
      store name (← newMacro name params defaults body)
    | .callBlock line call params defaults body => do
      match call with
      | .call callLine callee args named =>
        emit line (← evalCall fuel callLine callee args named (some (params, defaults, body)))
      | e => emit line (← evalExpr fuel e)
    | .eval _ e => do
      discard (evalExpr fuel e)

end

/-- Fuel for every template of an environment. -/
def Environment.fuel (env : Environment) : Nat :=
  let longest := env.templates.entries.foldl (fun n t => max n t.2.source.length) 0
  (depthLimit + 4) * (8 * longest + 40)

/-- What a template writes in a context, or why it fails. -/
def Environment.render (env : Environment) (t : Template) (context : Value) :
    Except Error String :=
  let start : Machine :=
    { frames := [{ backing := .context context }], template := t.name, blocks := chainsOf t
      loaded := [t.name], escape := .ofName t.name }
  ((runUnit env.fuel t.body).run env).run start |>.map (·.2.out)

end Folio.Template
