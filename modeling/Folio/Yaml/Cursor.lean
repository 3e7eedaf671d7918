/-
A place in a YAML text.

YAML's rules ask for the column, so a place knows its line and its column beside the text
that is left.  A carriage return and the line feed behind it are one line break; so is each
of them alone, and so are three further characters.  Of the breaks in a text the two that
only Unicode has stay what they are, and all others become line feeds.
-/
namespace Folio.Yaml

def isBlank (c : Char) : Bool :=
  c = ' ' || c = '\t'

def isBreak (c : Char) : Bool :=
  c = '\n' || c = '\r' || c = '\u0085' || c = '\u2028' || c = '\u2029'

def isGap (c : Char) : Bool :=
  isBlank c || isBreak c

/-- Whether a text begins with a blank or a line break, or is empty. -/
def startsWithGap : List Char → Bool
  | [] => true
  | c :: _ => isGap c

/-- Whether a text begins with a line break or is empty. -/
def startsWithBreak : List Char → Bool
  | [] => true
  | c :: _ => isBreak c

/-- The characters of the names of anchors, directives and tag handles. -/
def isNameChar (c : Char) : Bool :=
  ('a' ≤ c && c ≤ 'z') || ('A' ≤ c && c ≤ 'Z') || ('0' ≤ c && c ≤ '9') || c = '_' || c = '-'

def isAllowed (c : Char) : Bool :=
  let n := c.toNat
  n = 0x09 || n = 0x0A || n = 0x0D || (0x20 ≤ n && n ≤ 0x7E) || n = 0x85 ||
    (0xA0 ≤ n && n ≤ 0xD7FF) || (0xE000 ≤ n && n ≤ 0xFFFD) || 0x10000 ≤ n

def breakCount : List Char → Nat
  | [] => 0
  | '\r' :: '\n' :: rest => breakCount rest + 1
  | c :: rest => if isBreak c then breakCount rest + 1 else breakCount rest

/-- The line breaks of a text, each as one character. -/
def breaksOf : List Char → List Char
  | [] => []
  | '\r' :: '\n' :: rest => '\n' :: breaksOf rest
  | c :: rest =>
    if c = '\u2028' || c = '\u2029' then c :: breaksOf rest
    else if isBreak c then '\n' :: breaksOf rest
    else breaksOf rest

/-- The column behind a text that begins at a given column. -/
def columnBehind : Nat → List Char → Nat
  | column, [] => column
  | column, c :: rest => columnBehind (if isBreak c then 0 else column + 1) rest

/-- What white space between two words of a scalar stands for: blanks for themselves, a
single line break for a space, and several breaks for all but the first. -/
def foldGap (gap : List Char) : List Char :=
  match breaksOf gap with
  | [] => gap
  | ['\n'] => [' ']
  | '\n' :: more => more
  | breaks => breaks

/-- A place in a text. -/
structure Cursor where
  rest : List Char
  index : Nat := 0
  line : Nat := 0
  column : Nat := 0
  deriving Inhabited

namespace Cursor

def advance (n : Nat) (c : Cursor) : Cursor :=
  let passed := c.rest.take n
  { rest := c.rest.drop n, index := c.index + passed.length,
    line := c.line + breakCount passed, column := columnBehind c.column passed }

/-- The characters from here on that satisfy `p`, and the place behind them. -/
def span (p : Char → Bool) (c : Cursor) : List Char × Cursor :=
  let run := c.rest.takeWhile p
  (run, c.advance run.length)

/-- The place behind the characters that satisfy `p`. -/
def skipWhile (p : Char → Bool) (c : Cursor) : Cursor :=
  (c.span p).2

/-- The line break here, if there is one, and the place behind it. -/
def takeBreak (c : Cursor) : List Char × Cursor :=
  match c.rest with
  | '\r' :: '\n' :: _ => (['\n'], c.advance 2)
  | x :: _ => if isBreak x then (breaksOf [x], c.advance 1) else ([], c)
  | [] => ([], c)

/-- Whether a line begins here with three times `mark` as a word of its own. -/
def atMarker (mark : Char) (c : Cursor) : Bool :=
  c.column = 0 && c.rest.take 3 = [mark, mark, mark] && startsWithGap (c.rest.drop 3)

/-- Whether a line begins here that separates documents. -/
def atDocumentMarker (c : Cursor) : Bool :=
  c.atMarker '-' || c.atMarker '.'

/-- The place behind blanks and a comment, where a line has to end. -/
def endOfLine? (c : Cursor) : Option Cursor :=
  let c := c.skipWhile isBlank
  let c := if c.rest.head? = some '#' then c.skipWhile fun x => !isBreak x else c
  if startsWithBreak c.rest then some c.takeBreak.2 else none

end Cursor

end Folio.Yaml
