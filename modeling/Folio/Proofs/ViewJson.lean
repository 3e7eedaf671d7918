/-
Views and forms are kept by JSON.

What a view is written as is read back as that view, and so is the same object with other entries
added, and so is the list of the values.  A view that is read is complete: every one of its names
occurs in the object, and both names of a form occur in the form (`view_read_back`).  Both records
are cases of `Record`; to show that, a partial view is taken for what it has of each part.
-/
import Folio.Proofs.Records

namespace Folio

open Reading

/-! ### Forms -/

namespace FormState

/-- The parts of a form. -/
inductive Part where
  | errors
  | values

/-- The names of the parts. -/
def fields : List String := ["errors", "values"]

/-- The values of the parts, in the order of `fields`. -/
def parts (f : FormState) : List Json := [.ofTexts f.errors, .ofTexts f.values]

/-- How forms are kept in JSON. -/
def record : Record FormState where
  Part := Part
  Value _ := Dict String
  part
    | f, .errors => f.errors
    | f, .values => f.values
  names := fields
  name
    | .errors => "errors"
    | .values => "values"
  place
    | .errors => 0
    | .values => 1
  read _ := dict text
  names_nodup := by decide
  names_place f := by cases f <;> rfl
  name_injective f g h := by
    cases f <;> cases g <;> first | rfl | exact absurd h (by decide)
  exists_part key hkey := by
    simp only [fields, List.mem_cons, List.not_mem_nil, or_false] at hkey
    rcases hkey with rfl | rfl
    · exact ⟨.errors, rfl⟩
    · exact ⟨.values, rfl⟩

/-- A part that has been read. -/
def Partial.part? (p : Partial) : Part → Option (Dict String)
  | .errors => p.errors
  | .values => p.values

/-- A part that is read. -/
def Partial.put (p : Partial) : Part → Dict String → Partial
  | .errors, errors => { p with errors := some errors }
  | .values, values => { p with values := some values }

theorem steps : record.Steps {} Partial.readField Partial.part? Partial.put where
  part?_start f := by cases f <;> rfl
  known p f j := by cases f <;> exact bind_return
  unknown p key j h := by
    rw [Partial.readField]
    split
    · next hkey => exact absurd hkey.symm (h .errors)
    · next hkey => exact absurd hkey.symm (h .values)
    · rfl
  part?_put p f x := by cases f <;> rfl
  part?_put_ne p f g x h := by
    cases f <;> cases g <;> first | rfl | exact absurd rfl h

theorem reads : record.Reads ofJson where
  object entries a := by
    rw [← steps.run_eq_ok, ofJson]
    simp only [bind_eq_ok, required_eq_ok]
    constructor
    · rintro ⟨p, hp, errors, herrors, values, hvalues, ha⟩
      cases ha
      exact ⟨p, hp, fun f => by cases f <;> assumption⟩
    · rintro ⟨p, hp, hall⟩
      exact ⟨p, hp, a.errors, hall .errors, a.values, hall .values, rfl⟩
  list items a := by
    rw [ofJson]
    simp only [bind_eq_ok, place_eq_ok, noMore_eq_ok]
    constructor
    · rintro ⟨errors, herrors, values, hvalues, u, hlength, ha⟩
      cases ha
      exact ⟨hlength, fun f => by cases f <;> assumption⟩
    · rintro ⟨hlength, hall⟩
      exact ⟨a.errors, hall .errors, a.values, hall .values, (), hlength, rfl⟩

theorem written (f : FormState) : record.Written f f.parts where
  length := rfl
  read
    | .errors => ⟨_, rfl, dict_ofTexts f.errors⟩
    | .values => ⟨_, rfl, dict_ofTexts f.values⟩

/-- JSON that shows a form: the object of its parts, with other entries or without, or the list of
its parts. -/
def Shown (f : FormState) (j : Json) : Prop := Record.Shows fields f.parts j

theorem readBack : ReadBack fields toJson ofJson Shown :=
  reads.readBack (fun _ => rfl) written fun f _ hj => ⟨f.parts, written f, hj⟩

end FormState

/-! ### Views -/

namespace View

/-- The parts of a view. -/
inductive Part where
  | data
  | sessionData
  | feedbackData
  | formData
  | csrfToken
  | page

/-- What the values of a part are. -/
def Part.Value : Part → Type
  | data => Dict Json
  | sessionData => Json
  | feedbackData => Dict String
  | formData => FormState
  | csrfToken => String
  | page => String

/-- How views are kept in JSON. -/
def record : Record View where
  Part := Part
  Value := Part.Value
  part
    | v, .data => v.data
    | v, .sessionData => v.sessionData
    | v, .feedbackData => v.feedbackData
    | v, .formData => v.formData
    | v, .csrfToken => v.csrfToken
    | v, .page => v.page.name
  names := fields
  name
    | .data => "data"
    | .sessionData => "session_data"
    | .feedbackData => "feedback_data"
    | .formData => "form_data"
    | .csrfToken => "csrf_token"
    | .page => "page"
  place
    | .data => 0
    | .sessionData => 1
    | .feedbackData => 2
    | .formData => 3
    | .csrfToken => 4
    | .page => 5
  read
    | .data => dict .ok
    | .sessionData => .ok
    | .feedbackData => dict text
    | .formData => FormState.ofJson
    | .csrfToken => text
    | .page => text
  names_nodup := by decide
  names_place f := by cases f <;> rfl
  name_injective f g h := by
    cases f <;> cases g <;> first | rfl | exact absurd h (by decide)
  exists_part key hkey := by
    simp only [fields, List.mem_cons, List.not_mem_nil, or_false] at hkey
    rcases hkey with rfl | rfl | rfl | rfl | rfl | rfl
    · exact ⟨.data, rfl⟩
    · exact ⟨.sessionData, rfl⟩
    · exact ⟨.feedbackData, rfl⟩
    · exact ⟨.formData, rfl⟩
    · exact ⟨.csrfToken, rfl⟩
    · exact ⟨.page, rfl⟩

/-- A part that has been read. -/
def Partial.part? (p : Partial) : (f : Part) → Option f.Value
  | .data => p.data
  | .sessionData => p.sessionData
  | .feedbackData => p.feedbackData
  | .formData => p.formData
  | .csrfToken => p.csrfToken
  | .page => p.page

/-- A part that is read. -/
def Partial.put (p : Partial) : (f : Part) → f.Value → Partial
  | .data, data => { p with data := some data }
  | .sessionData, session => { p with sessionData := some session }
  | .feedbackData, feedback => { p with feedbackData := some feedback }
  | .formData, form => { p with formData := some form }
  | .csrfToken, token => { p with csrfToken := some token }
  | .page, page => { p with page := some page }

theorem steps : record.Steps {} Partial.readField Partial.part? Partial.put where
  part?_start f := by cases f <;> rfl
  known p f j := by
    cases f with
    | sessionData => rfl
    | _ => exact bind_return
  unknown p key j h := by
    rw [Partial.readField]
    split
    · next hkey => exact absurd hkey.symm (h .data)
    · next hkey => exact absurd hkey.symm (h .sessionData)
    · next hkey => exact absurd hkey.symm (h .feedbackData)
    · next hkey => exact absurd hkey.symm (h .formData)
    · next hkey => exact absurd hkey.symm (h .csrfToken)
    · next hkey => exact absurd hkey.symm (h .page)
    · rfl
  part?_put p f x := by cases f <;> rfl
  part?_put_ne p f g x h := by
    cases f <;> cases g <;> first | rfl | exact absurd rfl h

theorem reads : record.Reads ofJson where
  object entries v := by
    rw [← steps.run_eq_ok, ofJson]
    simp only [bind_eq_ok, required_eq_ok]
    constructor
    · rintro ⟨p, hp, data, hdata, session, hsession, feedback, hfeedback, form, hform, token,
        htoken, page, hpage, hv⟩
      cases hv
      exact ⟨p, hp, fun f => by cases f <;> assumption⟩
    · rintro ⟨p, hp, hall⟩
      exact ⟨p, hp, v.data, hall .data, v.sessionData, hall .sessionData, v.feedbackData,
        hall .feedbackData, v.formData, hall .formData, v.csrfToken, hall .csrfToken, v.page.name,
        hall .page, rfl⟩
  list items v := by
    rw [ofJson]
    simp only [bind_eq_ok, place_eq_ok, noMore_eq_ok]
    constructor
    · rintro ⟨data, hdata, session, hsession, feedback, hfeedback, form, hform, token, htoken, page,
        hpage, u, hlength, hv⟩
      cases hv
      exact ⟨hlength, fun f => by cases f <;> assumption⟩
    · rintro ⟨hlength, hall⟩
      exact ⟨v.data, hall .data, v.sessionData, hall .sessionData, v.feedbackData,
        hall .feedbackData, v.formData, hall .formData, v.csrfToken, hall .csrfToken, v.page.name,
        hall .page, (), hlength, rfl⟩

/-- The values of the parts, with the form in the given JSON. -/
def partsWith (v : View) (form : Json) : List Json :=
  [.ofDict v.data, v.sessionData, .ofTexts v.feedbackData, form, .str v.csrfToken, .str v.page.name]

theorem written (v : View) {form : Json} (h : FormState.ofJson form = .ok v.formData) :
    record.Written v (v.partsWith form) where
  length := rfl
  read
    | .data => ⟨_, rfl, dict_ofDict v.data⟩
    | .sessionData => ⟨_, rfl, rfl⟩
    | .feedbackData => ⟨_, rfl, dict_ofTexts v.feedbackData⟩
    | .formData => ⟨_, rfl, h⟩
    | .csrfToken => ⟨_, rfl, rfl⟩
    | .page => ⟨_, rfl, rfl⟩

/-- JSON that shows a view: the object of its parts, with other entries or without, or the list of
its parts; the form in it is shown in either way, too. -/
def Shown (v : View) (j : Json) : Prop :=
  ∃ form, v.formData.Shown form ∧ Record.Shows fields (v.partsWith form) j

theorem readBack : ReadBack fields toJson ofJson Shown := by
  refine reads.readBack (fun _ => rfl) (fun v => written v (FormState.readBack.written _))
    fun v j hj => ?_
  obtain ⟨form, hform, hshows⟩ := hj
  exact ⟨v.partsWith form, written v (FormState.readBack.shown _ _ hform), hshows⟩

end View

/-! ### Both records -/

/-- Views and forms are read back from what they are written as, with other entries added or as a
list, too, and only complete ones are read: an object without one of the names of a view, or whose
form is an object without one of the names of a form, is refused. -/
theorem view_read_back :
    ReadBack View.fields View.toJson View.ofJson View.Shown ∧
    ReadBack FormState.fields FormState.toJson FormState.ofJson FormState.Shown ∧
    ∀ entries form name, ("form_data", .obj form) ∈ entries →
      name ∈ FormState.fields → name ∉ form.map Prod.fst →
      ∃ e, View.ofJson (.obj entries) = .error e := by
  refine ⟨View.readBack, FormState.readBack, fun entries form name hentry hname habsent => ?_⟩
  obtain ⟨e, hform⟩ := FormState.readBack.complete form name hname habsent
  exact View.reads.unreadable (f := View.Part.formData) hentry hform

/-- A view with a form in a list, and a view whose form has no values. -/
theorem view_read_back_list :
    let v : View :=
      { data := Dict.empty.insert "tags" (.arr [.str "a", .obj [("b", .null)]])
        formData := ({} : FormState).addError "email" "missing"
        page := ⟨"home"⟩ }
    View.ofJson (.arr [.obj [("tags", .arr [.str "a", .obj [("b", .null)]])], .null, .obj [],
      .arr [.obj [("email", .str "missing")], .obj []], .str "", .str "home"]) = .ok v ∧
    View.ofJson v.toJson = .ok v ∧
    (∃ e, View.ofJson (.obj [("page", .str "home")]) = .error e) ∧
    ∃ e, View.ofJson (.obj [("form_data", .obj [("errors", .obj [])])]) = .error e :=
  ⟨view_read_back.1.shown _ _ ⟨_, .list, .list⟩, view_read_back.1.written _,
    view_read_back.1.complete _ "data" (by decide) (by decide),
    view_read_back.2.2 _ [("errors", .obj [])] "values" (.head _) (by decide) (by decide)⟩

end Folio
