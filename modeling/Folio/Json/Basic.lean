/-
JSON values, the shape in which page data, session payloads and stored views arrive.

A number is a whole number or a float, and the two stay apart: `1` and `1.0` are different
values.  The fields of an object are in increasing order of their names.
-/
import Folio.Dict
import Folio.Number.Layout
import Folio.Text.Letter

namespace Folio

/-- A JSON value. -/
inductive Json where
  | null
  | bool (b : Bool)
  | int (n : Int)
  | float (x : Float)
  | str (s : String)
  | arr (items : List Json)
  | obj (fields : List (String × Json))
  deriving Inhabited

namespace Json

/-- The object with the given fields; of several of one name the last one counts. -/
def ofFields (fields : List (String × Json)) : Json :=
  .obj (Dict.ofList fields).entries

def ofDict (d : Dict Json) : Json := .obj d.entries

def ofTexts (d : Dict String) : Json :=
  .obj (d.entries.map fun e => (e.1, .str e.2))

def ofStrings (xs : List String) : Json := .arr (xs.map .str)

/-- The value of a field; `none` also for a value that has no fields. -/
def field? (j : Json) (name : String) : Option Json :=
  match j with
  | .obj fields => lookup? name fields
  | _ => none

def str? : Json → Option String
  | .str s => some s
  | _ => none

def bool? : Json → Option Bool
  | .bool b => some b
  | _ => none

def nat? : Json → Option Nat
  | .int n => if 0 ≤ n then some n.toNat else none
  | _ => none

def arr? : Json → Option (List Json)
  | .arr items => some items
  | _ => none

end Json

end Folio
