/-
Values from JSON and back.
-/
import Folio.Json.Basic
import Folio.Template.Value.Order
import Folio.Template.Value.Text

namespace Folio.Template.Value

mutual

/-- The value that a JSON value stands for. -/
def ofJson : Json → Value
  | .null => .none
  | .bool b => .bool b
  | .int n => .int n
  | .float x => .float x
  | .str s => text s
  | .arr items => .list (ofJsonItems items)
  | .obj fields => .map (ofJsonFields fields)

def ofJsonItems : List Json → List Value
  | [] => []
  | item :: rest => ofJson item :: ofJsonItems rest

def ofJsonFields : List (String × Json) → List (Value × Value)
  | [] => []
  | (name, value) :: rest => (text name, ofJson value) :: ofJsonFields rest

end

mutual

/-- A value as JSON; functions and the like have no JSON form and give `null`. -/
def toJson : Value → Json
  | .bool b => .bool b
  | .int n => .int n
  | .float x => .float x
  | .str s _ => .str s
  | .list items | .stream _ items => .arr (toJsonItems items)
  | .map entries | .roled _ entries => Json.ofFields (toJsonFields entries)
  | _ => .null

def toJsonItems : List Value → List Json
  | [] => []
  | v :: rest => toJson v :: toJsonItems rest

def toJsonFields : List (Value × Value) → List (String × Json)
  | [] => []
  | (k, v) :: rest => (display k, toJson v) :: toJsonFields rest

end

end Folio.Template.Value
