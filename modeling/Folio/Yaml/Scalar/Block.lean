/-
Scalars that take whole lines of a YAML text.

Behind a bar the lines stay lines; behind an angle they are joined, except for those that
begin with a blank.  The header may say by how much the lines are indented and what
happens to the line breaks at the end: one is kept, or with `-` none, or with `+` all.
-/
import Folio.Yaml.Cursor

namespace Folio.Yaml

/-- What happens to the line breaks at the end. -/
inductive Chomping where
  | strip
  | clip
  | keep
  deriving DecidableEq, Inhabited, Repr

def Chomping.ofChar? : Char → Option Chomping
  | '-' => some .strip
  | '+' => some .keep
  | _ => none

/-- The indentation that a digit gives, which is not zero. -/
def indentDigit? : Option Char → Option (Option Nat)
  | none => some none
  | some '0' => none
  | some c => some (if '1' ≤ c && c ≤ '9' then some (c.toNat - '0'.toNat) else none)

/-- The header of a block scalar: the chomping, the indentation if it is given, and how
many characters that takes.  The two stand in any order. -/
def blockHeader? : List Char → Option (Chomping × Option Nat × Nat)
  | [] => some (.clip, none, 0)
  | c :: rest =>
    match Chomping.ofChar? c with
    | some chomping => do
      let indent ← indentDigit? rest.head?
      return (chomping, indent, if indent.isSome then 2 else 1)
    | none => do
      let indent ← indentDigit? (some c)
      if indent.isNone then return (.clip, none, 0)
      match rest.head?.bind Chomping.ofChar? with
      | some chomping => return (chomping, indent, 2)
      | none => return (.clip, indent, 1)

/-- Empty lines and the indentation of the next line: the line breaks, the widest
indentation, and the place where the line begins.  Without an `indent`, zero, all spaces
belong to the indentation. -/
def blockGap? (indent : Nat) : Nat → List Char → Nat → Cursor → Option (List Char × Nat × Cursor)
  | 0, _, _, _ => none
  | fuel + 1, breaks, widest, c =>
    let spaces := c.rest.takeWhile (· = ' ')
    let c := c.advance (if indent = 0 then spaces.length else min spaces.length (indent - c.column))
    let widest := max widest c.column
    if (indent = 0 || c.column < indent) && c.rest.head? = some '\t' then none
    else if c.rest.head?.any isBreak then
      let (lineBreak, behind) := c.takeBreak
      blockGap? indent fuel (breaks ++ lineBreak) widest behind
    else some (breaks, widest, c)

/-- The lines of a block scalar: its text, the last line break, the empty lines behind it,
and the place behind all.  `lineBreak` ends the line before, `breaks` are the empty lines
in between, and `blank` says whether the line before begins with a blank. -/
def blockLines? (join : Bool) (indent : Nat) : Nat → List Char → List Char → List Char → Bool →
    Cursor → Option (List Char × List Char × List Char × Cursor)
  | 0, _, _, _, _, _ => none
  | fuel + 1, text, lineBreak, breaks, blank, c =>
    match c.rest with
    | [] => some (text, lineBreak, breaks, c)
    | x :: _ =>
      if c.column ≠ indent then some (text, lineBreak, breaks, c)
      else do
        let joined :=
          if join && lineBreak = ['\n'] && !blank && !isBlank x then
            if breaks.isEmpty then [' '] else []
          else lineBreak
        let (line, c) := c.span fun y => !isBreak y
        let (lineBreak, c) := c.takeBreak
        let text := text ++ joined ++ breaks ++ line
        let (breaks, _, c) ← blockGap? indent (c.rest.length + 1) [] 0 c
        blockLines? join indent fuel text lineBreak breaks (isBlank x) c

/-- The block scalar at `c`, which is its indicator, inside of a block with the indentation
`outer`, and the place behind it. -/
def block? (join : Bool) (outer : Int) (c : Cursor) : Option (List Char × Cursor) := do
  let c := c.advance 1
  let (chomping, increment, size) ← blockHeader? c.rest
  let c ← (c.advance size).endOfLine?
  let given :=
    match increment with
    | some n => outer.toNat + n
    | none => 0
  let (breaks, widest, c) ← blockGap? given (c.rest.length + 1) [] 0 c
  let indent := if given = 0 then max widest (max (outer + 1).toNat 1) else given
  let (text, lineBreak, breaks, c) ← blockLines? join indent (c.rest.length + 1) [] [] breaks false c
  let text :=
    match chomping with
    | .strip => text
    | .clip => text ++ lineBreak
    | .keep => text ++ lineBreak ++ breaks
  return (text, c)

end Folio.Yaml
