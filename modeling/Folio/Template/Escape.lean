/-
How values are written into the output of a template.

Markup escapes the characters that mean something in it, unless a text is marked safe.
Which templates are markup is decided by their names.
-/
import Folio.Text.Pieces
import Folio.Template.Value.Text

namespace Folio.Template

/-- Whether output is escaped. -/
inductive Escape where
  | none
  | html
  deriving DecidableEq, Inhabited, Repr

namespace Escape

/-- The escaped form of a character. -/
def htmlChar : Char → List Char
  | '<' => ['&', 'l', 't', ';']
  | '>' => ['&', 'g', 't', ';']
  | '&' => ['&', 'a', 'm', 'p', ';']
  | '"' => ['&', 'q', 'u', 'o', 't', ';']
  | '\'' => ['&', '#', 'x', '2', '7', ';']
  | '/' => ['&', '#', 'x', '2', 'f', ';']
  | c => [c]

def htmlText (s : String) : String :=
  String.ofList (s.toList.flatMap htmlChar)

/-- What is written for a value. -/
def render (escape : Escape) (v : Value) : String :=
  match escape, v with
  | _, .str s true => s
  | .none, v => v.display
  | .html, v =>
    match v.kind with
    | .undefined | .none | .bool | .number => v.display
    | _ => htmlText v.display

def withoutEnd (ending : String) (cs : List Char) : Option (List Char) :=
  (Text.dropStart? ending.toList.reverse cs.reverse).map List.reverse

/-- How the output of a template of the given name is escaped at first.  What counts is the
part behind the last point, or the whole name; an ending that marks templates as such is
left out before. -/
def ofName (name : String) : Escape :=
  let cs := name.toList
  let stem := ([".j2", ".jinja2", ".jinja"].findSome? (withoutEnd · cs)).getD cs
  match String.ofList (stem.reverse.takeWhile (· ≠ '.')).reverse with
  | "html" | "htm" | "xml" => .html
  | _ => .none

end Escape

end Folio.Template
