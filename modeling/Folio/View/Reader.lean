/-
Views and forms read back from JSON.

A record is read from an object or from a list.  In an object every field of the record
has to occur, other fields do not matter, and the fields are read in the order of their
names; a list holds the values of all fields in the order of their declaration.
-/
import Folio.Text.Quoted
import Folio.View

namespace Folio

/-- Why a JSON value is not what it should be. -/
inductive ReadError where
  | wrongType (found : Json) (expected : String)
  | missingField (name : String)
  | wrongLength (length : Nat) (expected : String)
  deriving Inhabited

namespace ReadError

def describe : Json → String
  | .null => "null"
  | .bool b => "boolean `" ++ (if b then "true" else "false") ++ "`"
  | .int n => "integer `" ++ Number.intText n ++ "`"
  | .float x => "floating point `" ++ Number.floatText x ++ "`"
  | .str s => "string " ++ Text.quoted s
  | .arr _ => "sequence"
  | .obj _ => "map"

def message : ReadError → String
  | .wrongType found expected =>
    "invalid type: " ++ describe found ++ ", expected " ++ expected
  | .missingField name => "missing field `" ++ name ++ "`"
  | .wrongLength length expected =>
    "invalid length " ++ Number.intText length ++ ", expected " ++ expected

end ReadError

/-- The result of reading a JSON value. -/
abbrev Reading (α : Type) := Except ReadError α

namespace Reading

def text : Json → Reading String
  | .str s => .ok s
  | j => .error (.wrongType j "a string")

/-- Each field of an object, in order, as it is read by `item`. -/
def entries {α : Type} (item : Json → Reading α) : List (String × Json) →
    Reading (List (String × α))
  | [] => .ok []
  | (name, j) :: rest => do
    let value ← item j
    let values ← entries item rest
    return (name, value) :: values

def dict {α : Type} (item : Json → Reading α) : Json → Reading (Dict α)
  | .obj fields => Dict.ofList <$> entries item fields
  | j => .error (.wrongType j "a map")

def required {α : Type} (name : String) : Option α → Reading α
  | some value => .ok value
  | none => .error (.missingField name)

/-- The place of a list, and an error that names the record if the list is too short. -/
def place {α : Type} (record : String) (size index : Nat) (item : Json → Reading α)
    (items : List Json) : Reading α :=
  match items[index]? with
  | some j => item j
  | none =>
    .error (.wrongLength index (record ++ " with " ++ Number.intText size ++ " elements"))

/-- The error of a list that is longer than the record. -/
def noMore (size : Nat) (items : List Json) : Reading Unit :=
  if items.length ≤ size then .ok ()
  else .error (.wrongLength items.length "fewer elements in array")

end Reading

open Reading

namespace FormState

/-- The fields of a form that have been read. -/
structure Partial where
  errors : Option (Dict String) := none
  values : Option (Dict String) := none

def Partial.readField (p : Partial) (field : String × Json) : Reading Partial :=
  match field.1 with
  | "errors" => return { p with errors := some (← dict text field.2) }
  | "values" => return { p with values := some (← dict text field.2) }
  | _ => .ok p

/-- A form from JSON. -/
def ofJson : Json → Reading FormState
  | .obj fields => do
    let p ← fields.foldlM Partial.readField {}
    let errors ← required "errors" p.errors
    let values ← required "values" p.values
    return { errors, values }
  | .arr items => do
    let errors ← place "struct FormState" 2 0 (dict text) items
    let values ← place "struct FormState" 2 1 (dict text) items
    noMore 2 items
    return { errors, values }
  | j => .error (.wrongType j "struct FormState")

end FormState

namespace View

/-- The fields of a view that have been read. -/
structure Partial where
  data : Option (Dict Json) := none
  sessionData : Option Json := none
  feedbackData : Option (Dict String) := none
  formData : Option FormState := none
  csrfToken : Option String := none
  page : Option String := none

def Partial.readField (p : Partial) (field : String × Json) : Reading Partial :=
  match field.1 with
  | "data" => return { p with data := some (← dict .ok field.2) }
  | "session_data" => return { p with sessionData := some field.2 }
  | "feedback_data" => return { p with feedbackData := some (← dict text field.2) }
  | "form_data" => return { p with formData := some (← FormState.ofJson field.2) }
  | "csrf_token" => return { p with csrfToken := some (← text field.2) }
  | "page" => return { p with page := some (← text field.2) }
  | _ => .ok p

/-- A view from JSON. -/
def ofJson : Json → Reading View
  | .obj fields => do
    let p ← fields.foldlM Partial.readField {}
    let data ← required "data" p.data
    let sessionData ← required "session_data" p.sessionData
    let feedbackData ← required "feedback_data" p.feedbackData
    let formData ← required "form_data" p.formData
    let csrfToken ← required "csrf_token" p.csrfToken
    let page ← required "page" p.page
    return { data, sessionData, feedbackData, formData, csrfToken, page := ⟨page⟩ }
  | .arr items => do
    let record := "struct ViewData"
    let data ← place record 6 0 (dict .ok) items
    let sessionData ← place record 6 1 .ok items
    let feedbackData ← place record 6 2 (dict text) items
    let formData ← place record 6 3 FormState.ofJson items
    let csrfToken ← place record 6 4 text items
    let page ← place record 6 5 text items
    noMore 6 items
    return { data, sessionData, feedbackData, formData, csrfToken, page := ⟨page⟩ }
  | j => .error (.wrongType j "struct ViewData")

end View

end Folio
