/-
Plain scalars in a YAML text.

A plain scalar has no marks around it.  It ends in front of a colon that a blank follows,
of a comment, of a line that is not indented enough, and, inside brackets, of a comma or a
bracket.  Its lines are joined.
-/
import Folio.Yaml.Cursor

namespace Folio.Yaml

/-- The characters that end a plain scalar inside brackets. -/
def isFlowIndicator (c : Char) : Bool :=
  c = ',' || c = '[' || c = ']' || c = '\x7b' || c = '\x7d'

/-- One word of a plain scalar.  Inside brackets a colon must not stand right in front of
another indicator. -/
def plainWord? (flow : Bool) : List Char → Option (List Char)
  | [] => some []
  | c :: rest =>
    if isGap c then some []
    else if flow && c = ':' && rest.head?.any (fun d => isFlowIndicator d || d = '?') then none
    else if (c = ':' && startsWithGap rest) || (flow && isFlowIndicator c) then some []
    else (plainWord? flow rest).map (c :: ·)

/-- Whether white space has a tab among the first `indent` columns of a later line. -/
def hasEarlyTab (indent : Int) : Option Nat → List Char → Bool
  | _, [] => false
  | column, c :: rest =>
    if isBreak c then hasEarlyTab indent (some 0) rest
    else
      match column with
      | none => hasEarlyTab indent none rest
      | some k => (c = '\t' && (k : Int) < indent) || hasEarlyTab indent (some (k + 1)) rest

/-- A plain scalar that has been read: its text, the place behind it and behind the white
space that follows it, and whether that place is on a later line. -/
structure PlainText where
  text : List Char
  behind : Cursor
  newLine : Bool

/-- The words of a plain scalar from `c` on.  `text` is what has been read, `gap` the white
space behind it, and `newLine` says whether there is a line break in it. -/
def plainWords? (flow : Bool) (indent : Int) : Nat → List Char → List Char → Bool → Cursor →
    Option PlainText
  | 0, _, _, _, _ => none
  | fuel + 1, text, gap, newLine, c =>
    if c.atDocumentMarker || c.rest.head? = some '#' then some ⟨text, c, newLine⟩
    else do
      let word ← plainWord? flow c.rest
      if word.isEmpty then return ⟨text, c, newLine⟩
      let text := text ++ foldGap gap ++ word
      let c := c.advance word.length
      let (gap, behind) := c.span isGap
      if gap.isEmpty then return ⟨text, c, false⟩
      if hasEarlyTab indent none gap then none
      let newLine := gap.any isBreak
      if !flow && (behind.column : Int) < indent then return ⟨text, behind, newLine⟩
      plainWords? flow indent fuel text gap newLine behind

def plainText? (flow : Bool) (indent : Int) (c : Cursor) : Option PlainText :=
  plainWords? flow indent (c.rest.length + 1) [] [] false c

end Folio.Yaml
