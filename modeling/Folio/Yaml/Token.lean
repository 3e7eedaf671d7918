/-
The tokens of a YAML text.

The lines of a block are told by their indentation: the tokens that begin and end a block
are not in the text but come from the columns.  Nor are keys marked in general: whether
something is a key shows at the colon behind it, on the same line and at most 1024
characters further, and the token for the key is then put in front of it.  So as long as
something may still turn out to be a key, neither it nor what follows is certain, and when
the text stops being readable only the tokens in front of it count.
-/
import Folio.Yaml.Property
import Folio.Yaml.Scalar.Basic
import Folio.Yaml.Scalar.Block
import Folio.Yaml.Scalar.Plain
import Folio.Yaml.Scalar.Quoted

namespace Folio.Yaml

/-- A token. -/
inductive Token where
  | directive (d : Directive)
  | documentStart | documentEnd | streamEnd
  | blockSequenceStart | blockMappingStart | blockEnd
  | flowSequenceStart | flowSequenceEnd | flowMappingStart | flowMappingEnd
  | blockEntry | flowEntry | key | value
  | alias (name : String)
  | anchor (name : String)
  | tag (name : TagName)
  | scalar (text : String) (style : Style)
  deriving DecidableEq, Inhabited, Repr

/-- Where something stands that may turn out to be a key. -/
structure KeyStart where
  /-- How many tokens there are in front of it. -/
  number : Nat
  /-- Whether nothing but a key may stand there. -/
  required : Bool
  index : Nat
  line : Nat
  column : Nat
  deriving Inhabited

/-- Whether it is too late at `c` for the colon behind a key. -/
def KeyStart.isStale (k : KeyStart) (c : Cursor) : Bool :=
  k.line < c.line || k.index + 1024 < c.index

/-- A text of which some tokens have been read. -/
structure Lexer where
  cursor : Cursor
  tokens : List Token := []
  /-- The column of the innermost block, and those of the blocks around it. -/
  indent : Int := -1
  outer : List Int := []
  /-- What may be a key between the innermost brackets, and between those around them; the
  last entry stands for the block outside of all brackets. -/
  keys : List (Option KeyStart) := [none]
  /-- Whether a key may stand here. -/
  keyAllowed : Bool := true
  ended : Bool := false
  deriving Inhabited

namespace Lexer

def inFlow (l : Lexer) : Bool := 1 < l.keys.length

def push (t : Token) (l : Lexer) : Lexer := { l with tokens := l.tokens ++ [t] }

/-- Adds a token in front of the one with a given number. -/
def insert (number : Nat) (t : Token) (l : Lexer) : Lexer :=
  { l with tokens := l.tokens.insertIdx number t }

def advance (n : Nat) (l : Lexer) : Lexer := { l with cursor := l.cursor.advance n }

def allowKey (allowed : Bool) (l : Lexer) : Lexer := { l with keyAllowed := allowed }

/-- Ends the blocks that are indented by more than `column`. -/
def unindent (column : Int) (l : Lexer) : Lexer :=
  if l.inFlow then l
  else
    let columns := l.indent :: l.outer
    let ended := columns.takeWhile (column < ·)
    let left := columns.drop ended.length
    { l with
      tokens := l.tokens ++ ended.map fun _ => .blockEnd
      indent := left.head?.getD (-1)
      outer := left.tail }

/-- Begins a block at `column` if it is indented by more than the one around it; its token
goes in front of the one with the given number, or behind all. -/
def indentTo (column : Nat) (number : Option Nat) (t : Token) (l : Lexer) : Lexer :=
  if l.inFlow || (column : Int) ≤ l.indent then l
  else
    let l := { l with indent := column, outer := l.indent :: l.outer }
    match number with
    | some n => l.insert n t
    | none => l.push t

/-- Forgets what may be a key, unless it has to be one. -/
def dropKey? (l : Lexer) : Option Lexer :=
  match l.keys with
  | some k :: rest => if k.required then none else some { l with keys := none :: rest }
  | _ => some l

def noteKey? (l : Lexer) : Option Lexer :=
  if l.keyAllowed then do
    let l ← l.dropKey?
    let c := l.cursor
    let required := !l.inFlow && l.indent = (c.column : Int)
    return { l with keys := some ⟨l.tokens.length, required, c.index, c.line, c.column⟩ :: l.keys.tail }
  else some l

/-- Forgets what may have been a key as long as the colon could follow. -/
def dropStaleKeys? (l : Lexer) : Option Lexer :=
  let isLate (k : Option KeyStart) := k.any (·.isStale l.cursor)
  if l.keys.any fun k => isLate k && k.any (·.required) then none
  else some { l with keys := l.keys.map fun k => if isLate k then none else k }

/-- Goes to the next token, over white space, comments and line breaks.  A tab is no white
space where a key may stand. -/
def skipGap : Nat → Lexer → Lexer
  | 0, l => l
  | fuel + 1, l =>
    let c := l.cursor
    let c := if c.index = 0 && c.rest.head? = some '\ufeff' then c.advance 1 else c
    let tabs := l.inFlow || !l.keyAllowed
    let c := c.skipWhile fun x => x = ' ' || (tabs && x = '\t')
    let c := if c.rest.head? = some '#' then c.skipWhile fun x => !isBreak x else c
    if c.rest.head?.any isBreak then
      skipGap fuel { l with cursor := c.takeBreak.2, keyAllowed := l.keyAllowed || !l.inFlow }
    else { l with cursor := c }

def streamEnd? (l : Lexer) : Option Lexer := do
  let l ← (l.unindent (-1)).dropKey?
  return { (l.push .streamEnd) with ended := true }

def directive? (l : Lexer) : Option Lexer := do
  let l ← (l.unindent (-1)).dropKey?
  let (d, c) ← Yaml.directive? l.cursor
  return { (l.push (.directive d)) with cursor := c, keyAllowed := false }

def documentMarker? (t : Token) (l : Lexer) : Option Lexer := do
  let l ← (l.unindent (-1)).dropKey?
  return ((l.push t).advance 3).allowKey false

def flowStart? (t : Token) (l : Lexer) : Option Lexer := do
  let l ← l.noteKey?
  return (({ l with keys := none :: l.keys }.push t).advance 1).allowKey true

def flowEnd? (t : Token) (l : Lexer) : Option Lexer := do
  let l ← l.dropKey?
  let keys := if l.inFlow then l.keys.tail else l.keys
  return (({ l with keys }.push t).advance 1).allowKey false

def flowComma? (l : Lexer) : Option Lexer := do
  let l ← l.dropKey?
  return ((l.push .flowEntry).advance 1).allowKey true

def blockDash? (l : Lexer) : Option Lexer := do
  if !l.inFlow && !l.keyAllowed then none
  let l ← (l.indentTo l.cursor.column none .blockSequenceStart).dropKey?
  return ((l.push .blockEntry).advance 1).allowKey true

def explicitKey? (l : Lexer) : Option Lexer := do
  if !l.inFlow && !l.keyAllowed then none
  let l ← (l.indentTo l.cursor.column none .blockMappingStart).dropKey?
  return ((l.push .key).advance 1).allowKey !l.inFlow

def value? (l : Lexer) : Option Lexer :=
  match l.keys with
  | some k :: rest =>
    let l := (l.insert k.number .key).indentTo k.column (some k.number) .blockMappingStart
    some ((({ l with keys := none :: rest }.push .value).advance 1).allowKey false)
  | _ =>
    if !l.inFlow && !l.keyAllowed then none
    else
      let l := l.indentTo l.cursor.column none .blockMappingStart
      some (((l.push .value).advance 1).allowKey !l.inFlow)

def anchor? (t : String → Token) (l : Lexer) : Option Lexer := do
  let l ← l.noteKey?
  let (name, c) ← anchorName? l.cursor
  return { (l.push (t name)) with cursor := c, keyAllowed := false }

def tag? (l : Lexer) : Option Lexer := do
  let l ← l.noteKey?
  let (name, c) ← tagName? l.inFlow l.cursor
  return { (l.push (.tag name)) with cursor := c, keyAllowed := false }

def blockScalar? (style : Style) (l : Lexer) : Option Lexer := do
  let l ← l.dropKey?
  let (text, c) ← block? (style = .folded) l.indent l.cursor
  return { (l.push (.scalar (String.ofList text) style)) with cursor := c, keyAllowed := true }

def quotedScalar? (quote : Char) (style : Style) (l : Lexer) : Option Lexer := do
  let l ← l.noteKey?
  let (text, c) ← quoted? quote l.cursor
  return { (l.push (.scalar (String.ofList text) style)) with cursor := c, keyAllowed := false }

def plainScalar? (l : Lexer) : Option Lexer := do
  let l ← l.noteKey?
  let p ← plainText? l.inFlow (l.indent + 1) l.cursor
  return { (l.push (.scalar (String.ofList p.text) .plain)) with
    cursor := p.behind, keyAllowed := p.newLine }

/-- Whether a plain scalar can begin with `c`, with `rest` behind it. -/
def startsPlain (flow : Bool) (c : Char) (rest : List Char) : Bool :=
  if c = '-' then !rest.head?.any isBlank
  else if c = '?' || c = ':' then !flow && !startsWithGap rest
  else !("-?:,[]#&*!|>'\"%@`".contains c || c = '\x7b' || c = '\x7d' || isGap c)

/-- The next token, which begins at `c` with `rest` behind it. -/
def token? (c : Char) (rest : List Char) (l : Lexer) : Option Lexer :=
  if l.cursor.column = 0 && c = '%' then l.directive?
  else if l.cursor.atMarker '-' then l.documentMarker? .documentStart
  else if l.cursor.atMarker '.' then l.documentMarker? .documentEnd
  else if c = '[' then l.flowStart? .flowSequenceStart
  else if c = '\x7b' then l.flowStart? .flowMappingStart
  else if c = ']' then l.flowEnd? .flowSequenceEnd
  else if c = '\x7d' then l.flowEnd? .flowMappingEnd
  else if c = ',' then l.flowComma?
  else if c = '-' && startsWithGap rest then l.blockDash?
  else if c = '?' && (l.inFlow || startsWithGap rest) then l.explicitKey?
  else if c = ':' && (l.inFlow || startsWithGap rest) then l.value?
  else if c = '*' then l.anchor? .alias
  else if c = '&' then l.anchor? .anchor
  else if c = '!' then l.tag?
  else if c = '|' && !l.inFlow then l.blockScalar? .literal
  else if c = '>' && !l.inFlow then l.blockScalar? .folded
  else if c = '\'' then l.quotedScalar? c .singleQuoted
  else if c = '"' then l.quotedScalar? c .doubleQuoted
  else if startsPlain l.inFlow c rest then l.plainScalar?
  else none

/-- Reads on by one token and those that belong in front of it. -/
def step? (l : Lexer) : Option Lexer := do
  let l ← (l.skipGap (l.cursor.rest.length + 1)).dropStaleKeys?
  let l := l.unindent l.cursor.column
  match l.cursor.rest with
  | [] => l.streamEnd?
  | c :: rest => l.token? c rest

/-- The tokens that do not depend on the text behind. -/
def certain (l : Lexer) : List Token :=
  let open? (k : Option KeyStart) : Option Nat :=
    match k with
    | some k => if k.required || !k.isStale l.cursor then some k.number else none
    | none => none
  match (l.keys.filterMap open?).min? with
  | some n => l.tokens.take n
  | none => l.tokens

/-- Reads on to the end, or as far as the text is readable. -/
def run : Nat → Lexer → List Token
  | 0, l => l.certain
  | fuel + 1, l =>
    match l.step? with
    | none => l.certain
    | some l => if l.ended then l.tokens else run fuel l

end Lexer

/-- The tokens of a text.  They end with `Token.streamEnd` if all of the text is readable;
a text with a character that is not allowed has none. -/
def tokens (text : String) : List Token :=
  let cs := text.toList
  if cs.all isAllowed then Lexer.run (cs.length + 2) { cursor := { rest := cs } } else []

end Folio.Yaml
