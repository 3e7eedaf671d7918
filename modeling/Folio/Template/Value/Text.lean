/-
Values as text.

On its own a text is written as it is, and what does not exist is not written at all.  As
part of a collection a text is quoted and what does not exist shows as `undefined`, so that
the items stay apart.
-/
import Folio.Number.Layout
import Folio.Text.Quoted
import Folio.Template.Value.Basic

namespace Folio.Template.Value

mutual

def inner : Value → String
  | .undefined _ => "undefined"
  | .none => "None"
  | .bool b => if b then "True" else "False"
  | .int n => Number.intText n
  | .float x => Number.floatCompactText x
  | .str s _ => Text.quoted s
  | .list items | .stream _ items => "[" ++ String.intercalate ", " (innerItems items) ++ "]"
  | .map entries | .roled .named entries =>
    "\x7b" ++ String.intercalate ", " (innerEntries entries) ++ "\x7d"
  | .roled (.callable code _) _ => "<macro " ++ code.name ++ ">"
  | .roled (.shown content) _ => content
  | .function name => "<function " ++ name ++ ">"
  | .space _ => "<namespace>"
  | .loop _ => "<loop>"

def innerItems : List Value → List String
  | [] => []
  | v :: rest => inner v :: innerItems rest

def innerEntries : List (Value × Value) → List String
  | [] => []
  | (k, v) :: rest => (inner k ++ ": " ++ inner v) :: innerEntries rest

end

def display : Value → String
  | .undefined _ => ""
  | .float x => Number.floatText x
  | .str s _ => s
  | v => inner v

end Folio.Template.Value
