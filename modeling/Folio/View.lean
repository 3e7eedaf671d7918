/-
What a page is rendered with.

A view holds the values of the page, the payload of the session, feedback messages, the
state of a form, the anti-forgery token and the name of the page.  Templates see it as a
map with a fixed set of names, `View.fields`.
-/
import Folio.Json.Basic

namespace Folio

/-- Tells pages apart, to mark the current one in a navigation. -/
structure Page where
  name : String := ""
  deriving DecidableEq, Inhabited, Repr

/-- The errors of a form and the values that were entered, by field. -/
structure FormState where
  errors : Dict String := {}
  values : Dict String := {}
  deriving Inhabited, BEq

namespace FormState

/-- Records an error for a field, in place of an earlier one. -/
def addError (f : FormState) (field message : String) : FormState :=
  { f with errors := f.errors.insert field message }

def setValue (f : FormState) (field value : String) : FormState :=
  { f with values := f.values.insert field value }

def error? (f : FormState) (field : String) : Option String := f.errors.get? field

def value? (f : FormState) (field : String) : Option String := f.values.get? field

def hasErrors (f : FormState) : Bool := !f.errors.isEmpty

/-- The form as JSON. -/
def toJson (f : FormState) : Json :=
  Json.ofFields [("errors", .ofTexts f.errors), ("values", .ofTexts f.values)]

end FormState

/-- What a page is rendered with. -/
structure View where
  data : Dict Json := {}
  sessionData : Json := .null
  feedbackData : Dict String := {}
  formData : FormState := {}
  csrfToken : String := ""
  page : Page := {}
  deriving Inhabited

namespace View

/-- The names under which templates see the parts of a view. -/
def fields : List String :=
  ["data", "session_data", "feedback_data", "form_data", "csrf_token", "page"]

def withPage (v : View) (page : Page) : View := { v with page := page }

def withData (v : View) (key : String) (value : Json) : View :=
  { v with data := v.data.insert key value }

def withSession (v : View) (session : Json) : View := { v with sessionData := session }

def withFeedback (v : View) (kind message : String) : View :=
  { v with feedbackData := v.feedbackData.insert kind message }

def withForm (v : View) (form : FormState) : View := { v with formData := form }

def withToken (v : View) (token : String) : View := { v with csrfToken := token }

/-- The values of the parts, in the order of `fields`. -/
def parts (v : View) : List Json :=
  [.ofDict v.data, v.sessionData, .ofTexts v.feedbackData, v.formData.toJson, .str v.csrfToken,
    .str v.page.name]

/-- The view as JSON. -/
def toJson (v : View) : Json := Json.ofFields (fields.zip v.parts)

end View

end Folio
