/-
Templates as syntax trees.

The grammar is read by recursive descent.  A failure is reported on the line of the last
token that was taken.  Expressions and statements may nest up to a fixed depth, which every
template that a person would write keeps.  The functions recurse on fuel; between two
tokens at most a fixed number of them call each other, so that fuel in proportion to the
number of tokens never runs out.
-/
import Folio.Template.Syntax
import Folio.Template.Token

namespace Folio.Template

/-- How deep expressions and statements may nest. -/
def nestingLimit : Nat := 150

def reservedNames : List String :=
  ["true", "True", "false", "False", "none", "None", "loop", "self"]

/-- Where the parser stands. -/
structure Position where
  /-- The tokens that are left. -/
  rest : List Located
  /-- Why the tokens end before the text does. -/
  failure : Option Unreadable
  /-- The line of the last token taken. -/
  last : Nat := 1
  /-- How deep the current construct is nested. -/
  depth : Nat := 0
  /-- Whether the current construct stands inside a macro. -/
  inMacro : Bool := false
  /-- The names of the blocks met so far. -/
  blocks : List String := []

/-- A parsing step; a failure is a kind and a line. -/
abbrev Parse := StateT Position (Except (ErrorKind × Nat))

namespace Parse

def reject {α : Type} : Parse α := do
  throw (.syntaxError, (← get).last)

/-- Fails because the text is not readable any further. -/
def broken {α : Type} (u : Unreadable) : Parse α := do
  throw (u.kind, u.line.getD (← get).last)

def peek : Parse (Option Token) := do
  let p ← get
  match p.rest, p.failure with
  | t :: _, _ => return some t.token
  | [], some failure => broken failure
  | [], none => return none

/-- The line of the next token, or of the last one if there are no more. -/
def nextLine : Parse Nat := do
  let p ← get
  return (p.rest.head?.map (·.line)).getD p.last

def take : Parse (Option Token) := do
  let p ← get
  match p.rest, p.failure with
  | t :: rest, _ =>
    set { p with rest := rest, last := t.line }
    return some t.token
  | [], some failure => broken failure
  | [], none => return none

def takeIf (p : Token → Bool) : Parse Bool := do
  match ← peek with
  | some t => if p t then do discard take; return true else return false
  | none => return false

/-- Takes the next token, which has to pass the test. -/
def expect (p : Token → Bool) : Parse Unit := do
  match ← take with
  | some t => if p t then return () else reject
  | none => reject

/-- Takes the next token, which has to be an identifier. -/
def identifier : Parse String := do
  match ← take with
  | some (.ident s) => return s
  | _ => reject

/-- Forgets why the tokens end, if there are none left. -/
def settle : Parse Unit :=
  modify fun p => if p.rest.isEmpty then { p with failure := none } else p

def nested {α : Type} (step : Parse α) : Parse α := do
  let depth := (← get).depth
  if nestingLimit ≤ depth then reject
  else
    modify fun p => { p with depth := depth + 1 }
    let result ← step
    modify fun p => { p with depth := depth }
    return result

end Parse

open Parse

/-! ### Tests for single tokens -/

def Token.isWord (w : String) : Token → Bool
  | .ident s => s = w
  | _ => false

def Token.isTagEnd : Token → Bool | .tagEnd => true | _ => false
def Token.isOutputEnd : Token → Bool | .outputEnd => true | _ => false
def Token.isComma : Token → Bool | .comma => true | _ => false
def Token.isColon : Token → Bool | .colon => true | _ => false
def Token.isAssign : Token → Bool | .assign => true | _ => false
def Token.isPipe : Token → Bool | .pipe => true | _ => false
def Token.isParenOpen : Token → Bool | .parenOpen => true | _ => false
def Token.isParenClose : Token → Bool | .parenClose => true | _ => false
def Token.isBracketClose : Token → Bool | .bracketClose => true | _ => false
def Token.isBraceClose : Token → Bool | .braceClose => true | _ => false

/-- Whether a token may begin the argument of a test that is written without parentheses. -/
def Token.beginsTestArgument : Token → Bool
  | .ident s => s ≠ "and" && s ≠ "or" && s ≠ "else" && s ≠ "is"
  | .str _ | .int _ | .float _ | .plus | .minus | .bracketOpen | .braceOpen => true
  | _ => false

/-- The binary operators by how tightly they bind, from the loosest on. -/
def binaryOpAt : Nat → Token → Option BinaryOp
  | 0, .ident "or" => some .or
  | 1, .ident "and" => some .and
  | 4, .plus => some .add
  | 4, .minus => some .sub
  | 5, .tilde => some .concat
  | 6, .star => some .mul
  | 6, .slash => some .div
  | 6, .slashSlash => some .floorDiv
  | 6, .percent => some .rem
  | 7, .starStar => some .pow
  | _, _ => none

/-- The comparison operators, except `in` and `not in`. -/
def comparisonOp : Token → Option BinaryOp
  | .eq => some .eq
  | .ne => some .ne
  | .lt => some .lt
  | .le => some .le
  | .gt => some .gt
  | .ge => some .ge
  | _ => none

/-- What takes the place of a parser that ran out of fuel. -/
private def outOfFuel {α : Type} : Parse α := reject

/-- The parts of a name with points in it, after the first one. -/
def parseMoreName : Nat → String → Parse String
  | 0, _ => outOfFuel
  | fuel + 1, name => do
    if ← takeIf Token.isDot then
      let part ← identifier
      parseMoreName fuel (name ++ "." ++ part)
    else return name

/-- The name of a filter or a test, which may have points in it. -/
def parseDottedName (fuel : Nat) : Parse String := do
  parseMoreName fuel (← identifier)

/-- The string literals that follow another one; they all form one literal.  A text that is
not readable right behind a literal counts as ended there. -/
def parseMoreStrings : Nat → String → Parse String
  | 0, _ => outOfFuel
  | fuel + 1, s => do
    settle
    match ← peek with
    | some (.str t) => do
      discard take
      parseMoreStrings fuel (s ++ t)
    | _ => return s

/-- The arguments of a call, a filter or a test. -/
structure Args where
  args : List (ArgStyle × Expr) := []
  named : List (Option String × Expr) := []

/-- The comparisons that follow an operand, as an expression. -/
def Expr.compared (line : Nat) (first : Expr) : List (Link × Expr) → Expr
  | [] => first
  | [(link, e)] =>
    if link.negated then .unary line .not (.binary line link.op first e)
    else .binary line link.op first e
  | links => .chain line first links

def Args.isEmpty (a : Args) : Bool := a.args.isEmpty && a.named.isEmpty

mutual

def parseExpr : Nat → Parse Expr
  | 0 => outOfFuel
  | fuel + 1 => nested do
    let start := (← get).last
    let e ← parseLevel fuel 0
    parseConditions fuel start e

/-- An expression without a condition at its outermost level. -/
def parsePlainExpr : Nat → Parse Expr
  | 0 => outOfFuel
  | fuel + 1 => nested (parseLevel fuel 0)

/-- The conditions after an expression: `e if test else other`. -/
def parseConditions : Nat → Nat → Expr → Parse Expr
  | 0, _, _ => outOfFuel
  | fuel + 1, start, e => do
    if ← takeIf (·.isWord "if") then
      let test ← parseLevel fuel 0
      let other ← if ← takeIf (·.isWord "else") then do
          let inner := (← get).last
          let e ← parseLevel fuel 0
          some <$> parseConditions fuel inner e
        else pure none
      let start' := (← get).last
      parseConditions fuel start' (.cond start test e other)
    else return e

/-- An expression of operators that bind at least as tightly as the level says. -/
def parseLevel : Nat → Nat → Parse Expr
  | 0, _ => outOfFuel
  | fuel + 1, level => do
    if level = 2 then
      let line ← nextLine
      if ← takeIf (·.isWord "not") then
        return .unary line .not (← parseLevel fuel 2)
      else parseLevel fuel 3
    else if level = 3 then
      let start := (← get).last
      let first ← parseLevel fuel 4
      return first.compared start (← parseComparisons fuel [])
    else if level = 8 then
      let line ← nextLine
      let e ← parseNegation fuel
      let e ← parsePostfix fuel line e
      parseFilters fuel e
    else
      let line ← nextLine
      let left ← parseLevel fuel (level + 1)
      parseOperators fuel level line left

/-- The operators of one level and their right operands. -/
def parseOperators : Nat → Nat → Nat → Expr → Parse Expr
  | 0, _, _, _ => outOfFuel
  | fuel + 1, level, line, left => do
    match (← peek).bind (binaryOpAt level) with
    | some op => do
      discard take
      let right ← parseLevel fuel (level + 1)
      parseOperators fuel level line (.binary line op left right)
    | none => return left

/-- The comparisons that follow an operand, after those already read. -/
def parseComparisons : Nat → List (Link × Expr) → Parse (List (Link × Expr))
  | 0, _ => outOfFuel
  | fuel + 1, links => do
    let line := (← get).last
    match ← peek with
    | some t =>
      match comparisonOp t with
      | some op => do
        discard take
        let e ← parseLevel fuel 4
        parseComparisons fuel (links ++ [({ line, op }, e)])
      | none =>
        if t.isWord "in" then
          discard take
          let e ← parseLevel fuel 4
          parseComparisons fuel (links ++ [({ line, op := .mem }, e)])
        else if t.isWord "not" then
          discard take
          expect (·.isWord "in")
          let e ← parseLevel fuel 4
          parseComparisons fuel (links ++ [({ line, op := .mem, negated := true }, e)])
        else return links
    | none => return links

/-- A primary expression behind any number of minus signs. -/
def parseNegation : Nat → Parse Expr
  | 0 => outOfFuel
  | fuel + 1 => do
    let line ← nextLine
    match ← peek with
    | some .minus => do
      discard take
      return .unary line .neg (← parseNegation fuel)
    | _ => nested (parsePrimary fuel)

def parsePrimary : Nat → Parse Expr
  | 0 => outOfFuel
  | fuel + 1 => do
    match ← take with
    | none => reject
    | some t =>
      let line := (← get).last
      match t with
      | .ident "true" | .ident "True" => return .const line (.bool true)
      | .ident "false" | .ident "False" => return .const line (.bool false)
      | .ident "none" | .ident "None" => return .const line .none
      | .ident name => return .var line name
      | .str s => return .const line (.str (← parseMoreStrings fuel s))
      | .int n => return .const line (.int n)
      | .float x => return .const line (.float x)
      | .parenOpen =>
        if ← takeIf Token.isParenClose then return .list line []
        else
          let e ← parseExpr fuel
          if ((← peek).map Token.isComma).getD false then
            return .list line (← parseItems fuel Token.isParenClose [e])
          else
            expect Token.isParenClose
            return e
      | .bracketOpen => return .list line (← parseItems fuel Token.isBracketClose [])
      | .braceOpen => return .map line (← parseEntries fuel [])
      | _ => reject

/-- The items up to a closing bracket, after those already read. -/
def parseItems : Nat → (Token → Bool) → List Expr → Parse (List Expr)
  | 0, _, _ => outOfFuel
  | fuel + 1, close, items => do
    if ← takeIf close then return items
    else
      if !items.isEmpty then expect Token.isComma
      if !items.isEmpty && (← takeIf close) then return items
      else
        let e ← parseExpr fuel
        parseItems fuel close (items ++ [e])

/-- The entries of a map up to its closing brace, after those already read. -/
def parseEntries : Nat → List (Expr × Expr) → Parse (List (Expr × Expr))
  | 0, _ => outOfFuel
  | fuel + 1, entries => do
    if ← takeIf Token.isBraceClose then return entries
    else
      if !entries.isEmpty then expect Token.isComma
      if !entries.isEmpty && (← takeIf Token.isBraceClose) then return entries
      else
        let key ← parseExpr fuel
        expect Token.isColon
        let value ← parseExpr fuel
        parseEntries fuel (entries ++ [(key, value)])

/-- The attributes, subscripts and calls that follow an expression. -/
def parsePostfix : Nat → Nat → Expr → Parse Expr
  | 0, _, _ => outOfFuel
  | fuel + 1, line, e => do
    let next ← nextLine
    match ← peek with
    | some .dot => do
      discard take
      match ← take with
      | some (.ident name) => parsePostfix fuel next (.attr line e name)
      | some (.int n) => do
        let place := Expr.const (← get).last (.int n)
        parsePostfix fuel next (.item line e place)
      | _ => reject
    | some .bracketOpen => do
      discard take
      let start ← if ((← peek).map Token.isColon).getD false then pure none
        else some <$> parseExpr fuel
      if ← takeIf Token.isColon then
        let stop ← if ((← peek).map fun t => t.isBracketClose || t.isColon).getD false
          then pure none else some <$> parseExpr fuel
        let step ← if ← takeIf Token.isColon then
            if ((← peek).map Token.isBracketClose).getD false then pure none
            else some <$> parseExpr fuel
          else pure none
        expect Token.isBracketClose
        parsePostfix fuel next (.slice line e start stop step)
      else
        expect Token.isBracketClose
        match start with
        | some index => parsePostfix fuel next (.item line e index)
        | none => reject
    | some .parenOpen => do
      let args ← parseArgs fuel
      parsePostfix fuel next (.call line e args.args args.named)
    | _ => return e

def parseFilters : Nat → Expr → Parse Expr
  | 0, _ => outOfFuel
  | fuel + 1, e => do
    match ← peek with
    | some .pipe => do
      discard take
      let name ← parseDottedName fuel
      let line := (← get).last
      let args ← parseOptionalArgs fuel
      parseFilters fuel (.filter line name (some e) args.args args.named)
    | some (.ident "is") => do
      discard take
      let negated ← takeIf (·.isWord "not")
      let name ← parseDottedName fuel
      let line := (← get).last
      let args ←
        match ← peek with
        | some .parenOpen => parseArgs fuel
        | some t =>
          if t.beginsTestArgument then do
            let start ← nextLine
            let arg ← parseNegation fuel
            let arg ← parsePostfix fuel start arg
            pure { args := [(.single, arg)] }
          else pure {}
        | none => pure {}
      let e := Expr.test line name e args.args args.named
      parseFilters fuel (if negated then .unary line .not e else e)
    | _ => return e

/-- The arguments after a filter's name, if there are any. -/
def parseOptionalArgs : Nat → Parse Args
  | 0 => outOfFuel
  | fuel + 1 => do
    if ((← peek).map Token.isParenOpen).getD false then parseArgs fuel else return {}

def parseArgs : Nat → Parse Args
  | 0 => outOfFuel
  | fuel + 1 => do
    expect Token.isParenOpen
    parseMoreArgs fuel {}

/-- The arguments up to the closing parenthesis, after those already read.  After an
argument with a name there is none without, unless it is a list to be spread out. -/
def parseMoreArgs : Nat → Args → Parse Args
  | 0, _ => outOfFuel
  | fuel + 1, args => do
    if ← takeIf Token.isParenClose then return args
    else
      if !args.isEmpty then expect Token.isComma
      if !args.isEmpty && (← takeIf Token.isParenClose) then return args
      else
        match ← peek with
        | some .starStar => do
          discard take
          let e ← parseExpr fuel
          parseMoreArgs fuel { args with named := args.named ++ [(none, e)] }
        | some .star => do
          discard take
          let e ← parseExpr fuel
          parseMoreArgs fuel { args with args := args.args ++ [(.spread, e)] }
        | _ => do
          let e ← parseExpr fuel
          let assigned ←
            match e with
            | .var _ name => do
              if ← takeIf Token.isAssign then pure (some name) else pure none
            | _ => pure none
          match assigned with
          | some name => do
            let value ← parsePlainExpr fuel
            parseMoreArgs fuel { args with named := args.named ++ [(some name, value)] }
          | none =>
            if !args.named.isEmpty then reject
            else parseMoreArgs fuel { args with args := args.args ++ [(.single, e)] }

end

/-! ### Assignment targets -/

def parseTargetAttrs : Nat → Nat → Expr → Target → Parse Target
  | 0, _, _, _ => outOfFuel
  | fuel + 1, line, object, target => do
    if ← takeIf Token.isDot then
      let name ← identifier
      parseTargetAttrs fuel line (.attr line object name) (.attr line object name)
    else return target

/-- A single name to store to, with attributes if they are allowed. -/
def parseTargetName (fuel : Nat) (dotted : Bool) : Parse Target := do
  let name ← identifier
  if name ∈ reservedNames then reject
  else
    let line := (← get).last
    if dotted then parseTargetAttrs fuel line (.var line name) (.var line name)
    else return .var line name

mutual

/-- One or several targets with commas between them; several, or one with a comma after it,
are unpacked from a list. -/
def parseTargets : Nat → Bool → Parse Target
  | 0, _ => outOfFuel
  | fuel + 1, dotted => do
    let line ← nextLine
    let (items, isList) ← parseMoreTargets fuel dotted [] false
    match isList, items with
    | false, [target] => return target
    | _, items => return .list line items

/-- The targets after those already read, and whether there was a comma. -/
def parseMoreTargets : Nat → Bool → List Target → Bool → Parse (List Target × Bool)
  | 0, _, _, _ => outOfFuel
  | fuel + 1, dotted, items, isList => do
    if !items.isEmpty then expect Token.isComma
    let atEnd :=
      match ← peek with
      | some .parenClose | some .outputEnd | some .tagEnd | some (.ident "in") => true
      | _ => false
    if atEnd then return (items, isList)
    else
      let item ← if ← takeIf Token.isParenOpen then do
          let target ← parseTargets fuel dotted
          expect Token.isParenClose
          pure target
        else parseTargetName fuel dotted
      let items := items ++ [item]
      if ((← peek).map Token.isComma).getD false then parseMoreTargets fuel dotted items true
      else return (items, isList)

end

/-! ### Statements -/

/-- The bindings of a `with` block up to the end of its tag. -/
def parseBindings : Nat → List (Target × Expr) → Parse (List (Target × Expr))
  | 0, _ => outOfFuel
  | fuel + 1, bindings => do
    if ((← peek).map Token.isTagEnd).getD false then return bindings
    else
      if !bindings.isEmpty then expect Token.isComma
      let target ← if ← takeIf Token.isParenOpen then do
          let target ← parseTargets fuel false
          expect Token.isParenClose
          pure target
        else parseTargetName fuel false
      expect Token.isAssign
      let value ← parseExpr fuel
      parseBindings fuel (bindings ++ [(target, value)])

/-- A chain of filters without a subject, up to the end of the tag. -/
def parseFilterChain : Nat → Option Expr → Parse Expr
  | 0, _ => outOfFuel
  | fuel + 1, chain => do
    if ((← peek).map Token.isTagEnd).getD false then
      match chain with
      | some e => return e
      | none => reject
    else
      if chain.isSome then expect Token.isPipe
      let name ← parseDottedName fuel
      let line := (← get).last
      let args ← parseOptionalArgs fuel
      parseFilterChain fuel (some (.filter line name chain args.args args.named))

/-- The words about context, which may follow an inclusion and mean nothing. -/
def skipContextWords : Parse Unit := do
  if (← takeIf fun t => t.isWord "with" || t.isWord "without") then
    expect (·.isWord "context")

/-- The names of an import, after those already read. -/
def parseImportNames : Nat → List (Target × Option Target) → Parse (List (Target × Option Target))
  | 0, _ => outOfFuel
  | fuel + 1, names => do
    let atEnd ← do
      match ← peek with
      | some .tagEnd => pure true
      | some t =>
        if t.isWord "with" || t.isWord "without" then do
          skipContextWords
          pure true
        else pure false
      | none => pure false
    if atEnd then return names
    else
      if !names.isEmpty then expect Token.isComma
      if ((← peek).map Token.isTagEnd).getD false then return names
      else
        let name ← parseTargetName fuel false
        let localName ← if ← takeIf (·.isWord "as") then some <$> parseTargetName fuel false
          else pure none
        parseImportNames fuel (names ++ [(name, localName)])

/-- The parameters of a macro up to the closing parenthesis, after those already read.
Parameters with a default come last. -/
def parseParams : Nat → List String → List Expr → Parse (List String × List Expr)
  | 0, _, _ => outOfFuel
  | fuel + 1, params, defaults => do
    if ← takeIf Token.isParenClose then return (params, defaults)
    else
      if !params.isEmpty then expect Token.isComma
      if !params.isEmpty && (← takeIf Token.isParenClose) then return (params, defaults)
      else
        let name ← identifier
        if name ∈ reservedNames then reject
        else if ← takeIf Token.isAssign then
          let value ← parseExpr fuel
          parseParams fuel (params ++ [name]) (defaults ++ [value])
        else if defaults.isEmpty then parseParams fuel (params ++ [name]) defaults
        else do
          expect Token.isAssign
          reject

/-- The expressions with commas between them after those already read. -/
def parseMoreValues : Nat → List Expr → Parse (List Expr)
  | 0, _ => outOfFuel
  | fuel + 1, values => do
    if ← takeIf Token.isComma then
      if ((← peek).map Token.isTagEnd).getD false then return values
      else parseMoreValues fuel (values ++ [← parseExpr fuel])
    else return values

/-- An expression, or several with commas between them, which form a list. -/
def parseValues (fuel : Nat) : Parse Expr := do
  let line ← nextLine
  let e ← parseExpr fuel
  if ((← peek).map Token.isComma).getD false then
    return .list line (← parseMoreValues fuel [e])
  else return e

def Stmt.isBlank : Stmt → Bool
  | .text _ s => s.toList.all Text.isBlank
  | _ => false

def isCall : Expr → Bool
  | .call .. => true
  | _ => false

mutual

/-- Statements and text up to a tag that begins with one of the given words, or up to the
end of the template. -/
def parseBody : Nat → List String → List Stmt → Parse (List Stmt)
  | 0, _, _ => outOfFuel
  | fuel + 1, stops, acc => do
    match ← take with
    | none => return acc.reverse
    | some (.text s) => parseBody fuel stops (.text (← get).last s :: acc)
    | some .outputStart => do
      let line := (← get).last
      let e ← parseExpr fuel
      expect Token.isOutputEnd
      parseBody fuel stops (.emit line e :: acc)
    | some .tagStart =>
      match ← peek with
      | none => reject
      | some t =>
        if stops.any t.isWord then return acc.reverse
        else do
          let s ← nested (parseStmt fuel)
          expect Token.isTagEnd
          parseBody fuel stops (s :: acc)
    | some _ => reject

/-- The statement that a tag begins with, up to the end of its last tag. -/
def parseStmt : Nat → Parse Stmt
  | 0 => outOfFuel
  | fuel + 1 => do
    match ← take with
    | some (.ident word) =>
      let line := (← get).last
      match word with
      | "for" => do
        let target ← parseTargets fuel false
        expect (·.isWord "in")
        let items ← parsePlainExpr fuel
        let filter ← if ← takeIf (·.isWord "if") then do
            let filterLine := (← get).last
            pure (some (filterLine, ← parseExpr fuel))
          else pure none
        let recursive ← takeIf (·.isWord "recursive")
        expect Token.isTagEnd
        let body ← parseBody fuel ["endfor", "else"] []
        let orElse ← if ← takeIf (·.isWord "else") then do
            expect Token.isTagEnd
            parseBody fuel ["endfor"] []
          else pure []
        discard take
        return .forLoop line target items filter recursive body orElse
      | "if" => parseIf fuel line
      | "with" => do
        let bindings ← parseBindings fuel []
        expect Token.isTagEnd
        let body ← parseBody fuel ["endwith"] []
        discard take
        return .withBlock line bindings body
      | "set" => do
        let target ← parseTargets fuel true
        if ((← peek).map fun t => t.isTagEnd || t.isPipe).getD false then
          let filter ← if ← takeIf Token.isPipe then some <$> parseFilterChain fuel none
            else pure none
          expect Token.isTagEnd
          let body ← parseBody fuel ["endset"] []
          discard take
          return .capture line target filter body
        else
          expect Token.isAssign
          return .assign line target (← parseValues fuel)
      | "autoescape" => do
        let enabled ← parseExpr fuel
        expect Token.isTagEnd
        let body ← parseBody fuel ["endautoescape"] []
        discard take
        return .autoEscape line enabled body
      | "filter" => do
        let filter ← parseFilterChain fuel none
        expect Token.isTagEnd
        let body ← parseBody fuel ["endfilter"] []
        discard take
        return .filterBlock line filter body
      | "block" => do
        if (← get).inMacro then reject
        else
          let name ← identifier
          if name ∈ (← get).blocks then reject
          else
            modify fun p => { p with blocks := name :: p.blocks }
            discard (takeIf (·.isWord "scoped"))
            let required ← takeIf (·.isWord "required")
            expect Token.isTagEnd
            let body ← parseBody fuel ["endblock"] []
            discard take
            if required && !body.all Stmt.isBlank then reject
            match ← peek with
            | some (.ident trailing) =>
              if trailing ≠ name then reject
              else
                discard take
                return .block line name required body
            | _ => return .block line name required body
      | "extends" => return .extend line (← parseExpr fuel)
      | "include" => do
        let names ← parseExpr fuel
        skipContextWords
        let ignoreMissing ← if ← takeIf (·.isWord "ignore") then do
            expect (·.isWord "missing")
            skipContextWords
            pure true
          else pure false
        return .include line 0 names ignoreMissing
      | "import" => do
        let source ← parseExpr fuel
        expect (·.isWord "as")
        match (← parseExpr fuel).target? with
        | some target => do
          skipContextWords
          return .importAs line 0 source target
        | none => reject
      | "from" => do
        let source ← parseExpr fuel
        expect (·.isWord "import")
        return .importNames line 0 source (← parseImportNames fuel [])
      | "macro" => do
        let name ← identifier
        expect Token.isParenOpen
        let (params, defaults) ← parseParams fuel [] []
        let body ← parseMacroBody fuel "endmacro"
        return .defMacro line name params defaults body
      | "call" => do
        let (params, defaults) ← if ← takeIf Token.isParenOpen then parseParams fuel [] []
          else pure ([], [])
        let call ← parseExpr fuel
        if isCall call then
          let body ← parseMacroBody fuel "endcall"
          return .callBlock line call params defaults body
        else reject
      | "do" => do
        let call ← parseExpr fuel
        if isCall call then return .eval line call else reject
      | _ => reject
    | _ => reject

/-- A condition after its keyword, with all its branches. -/
def parseIf : Nat → Nat → Parse Stmt
  | 0, _ => outOfFuel
  | fuel + 1, line => do
    let test ← parsePlainExpr fuel
    expect Token.isTagEnd
    let yes ← parseBody fuel ["endif", "else", "elif"] []
    match ← take with
    | some (.ident "else") => do
      expect Token.isTagEnd
      let no ← parseBody fuel ["endif"] []
      discard take
      return .ifElse line test yes no
    | some (.ident "elif") => do
      let next := (← get).last
      return .ifElse line test yes [← parseIf fuel next]
    | _ => return .ifElse line test yes []

/-- The body of a macro or of a call block, with both of its tags' ends. -/
def parseMacroBody : Nat → String → Parse (List Stmt)
  | 0, _ => outOfFuel
  | fuel + 1, stop => do
    expect Token.isTagEnd
    let outer := (← get).inMacro
    modify fun p => { p with inMacro := true }
    let body ← parseBody fuel [stop] []
    modify fun p => { p with inMacro := outer }
    discard take
    return body

end

/-- The statements of a template, or the kind and the line of its first error. -/
def parse (source : String) : Except (ErrorKind × Nat) (List Stmt) :=
  let tokens := Tokens.ofSource source
  let start : Position := { rest := tokens.list, failure := tokens.failure }
  (·.1) <$> (parseBody (20 * (tokens.list.length + 4)) [] []).run start

end Folio.Template
