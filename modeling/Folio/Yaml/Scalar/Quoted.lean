/-
Quoted scalars in a YAML text.

Between single quotes a quote is written twice, and nothing else is special.  Between
double quotes a backslash begins an escape; in front of a line break it joins the lines
without a space.  In both styles white space with a line break in it is folded, and no
line may look like the separator of two documents.
-/
import Folio.Text.Letter
import Folio.Yaml.Cursor

namespace Folio.Yaml

def letterEscape? : Char → Option Char
  | '0' => some '\x00'
  | 'a' => some '\x07'
  | 'b' => some '\x08'
  | 't' | '\t' => some '\t'
  | 'n' => some '\n'
  | 'v' => some '\x0b'
  | 'f' => some '\x0c'
  | 'r' => some '\r'
  | 'e' => some '\x1b'
  | ' ' => some ' '
  | '"' => some '"'
  | '/' => some '/'
  | '\\' => some '\\'
  | 'N' => some '\u0085'
  | '_' => some '\u00a0'
  | 'L' => some '\u2028'
  | 'P' => some '\u2029'
  | _ => none

/-- How many hexadecimal digits follow the letter of a numeric escape. -/
def escapeDigits? : Char → Option Nat
  | 'x' => some 2
  | 'u' => some 4
  | 'U' => some 8
  | _ => none

def charOfCode? (n : Nat) : Option Char :=
  if n.isValidChar then some (Char.ofNat n) else none

/-- The escape behind a backslash: its character, and how long it is. -/
def escape? : List Char → Option (Char × Nat)
  | [] => none
  | c :: rest =>
    match letterEscape? c with
    | some d => some (d, 1)
    | none => do
      let size ← escapeDigits? c
      let digits := rest.take size
      if digits.length < size then none
      let d ← charOfCode? (← Text.natOfDigits? 16 digits)
      return (d, size + 1)

/-- The text up to the closing quote, and the place behind it.  `text` is what has been
read, the last character first. -/
def quotedText? (quote : Char) : Nat → List Char → Cursor → Option (List Char × Cursor)
  | 0, _, _ => none
  | fuel + 1, text, c =>
    match c.rest with
    | [] => none
    | x :: rest =>
      if x = quote then
        if quote = '\'' && rest.head? = some '\'' then
          quotedText? quote fuel ('\'' :: text) (c.advance 2)
        else some (text.reverse, c.advance 1)
      else if isGap x then
        let (gap, behind) := c.span isGap
        if behind.atDocumentMarker then none
        else quotedText? quote fuel ((foldGap gap).reverse ++ text) behind
      else if quote = '"' && x = '\\' then
        if rest.head?.any isBreak then
          let (gap, behind) := (c.advance 1).takeBreak.2.span isGap
          if behind.atDocumentMarker then none
          else quotedText? quote fuel ((breaksOf gap).reverse ++ text) behind
        else
          match escape? rest with
          | some (d, size) => quotedText? quote fuel (d :: text) (c.advance (size + 1))
          | none => none
      else quotedText? quote fuel (x :: text) (c.advance 1)

/-- The quoted scalar at `c`, which is its opening quote. -/
def quoted? (quote : Char) (c : Cursor) : Option (List Char × Cursor) :=
  quotedText? quote (c.rest.length + 1) [] (c.advance 1)

end Folio.Yaml
