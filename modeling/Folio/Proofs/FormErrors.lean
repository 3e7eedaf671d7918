/-
The errors of a form, as the form and as templates see them.

A form keeps errors and values in two maps, and each call changes one of them.  What a map holds for
a field is what the last call for that field has put there (`FormState.get?_filled`), whatever other
calls come in between.

Templates ask for errors with a function of their own.  It sees the errors as a map of texts, in
which a field has a text exactly if the form has an error for it (`attr?_ofTexts`), and it takes an
empty message for no error.  That is where the two differ: a form with an empty message has errors,
and the function says so if it is asked about the form, and denies it if it is asked about the field
(`form_errors_answered_hidden`).
-/
import Folio.Function
import Folio.Proofs.Settings
import Folio.Proofs.ViewJson
import Folio.Template.Value.Json

namespace Folio

open Template

/-! ### Calls that change a form -/

namespace FormState

/-- A call that changes a form. -/
inductive Change where
  | addError (field message : String)
  | setValue (field value : String)

/-- The part of a form that a call changes. -/
def Change.part : Change → Part
  | .addError .. => .errors
  | .setValue .. => .values

/-- The text that a call puts for a field into a part of the form. -/
def Change.textFor? (part : Part) (field : String) (c : Change) : Option String :=
  match part, c with
  | .errors, .addError name message => if field = name then some message else none
  | .values, .setValue name value => if field = name then some value else none
  | _, _ => none

/-- The form after a call. -/
def change (form : FormState) : Change → FormState
  | .addError field message => form.addError field message
  | .setValue field value => form.setValue field value

/-- What the calls make of a new form. -/
def filled (changes : List Change) : FormState := changes.foldl change {}

/-- The map that a part of a form is. -/
def texts (form : FormState) : Part → Dict String
  | .errors => form.errors
  | .values => form.values

section Calls

variable {form : FormState} {c : Change} {changes : List Change} {part : Part} {field : String}

/-- What a part holds for a field is what the call puts there, and otherwise what it held before. -/
theorem get?_change : ((form.change c).texts part).get? field =
    (c.textFor? part field).or ((form.texts part).get? field) := by
  cases c with
  | addError name message =>
      cases part with
      | errors => exact Dict.get?_insert_or
      | values => rfl
  | setValue name value =>
      cases part with
      | errors => rfl
      | values => exact Dict.get?_insert_or

theorem texts_change (h : c.part ≠ part) : (form.change c).texts part = form.texts part := by
  cases c <;> cases part <;> first | rfl | exact absurd rfl h

theorem get?_foldl_change : ((changes.foldl change form).texts part).get? field =
    (lastSome? (Change.textFor? part field) changes).or ((form.texts part).get? field) := by
  induction changes generalizing form with
  | nil => rfl
  | cons c changes ih => rw [List.foldl_cons, ih, get?_change, lastSome?_cons, Option.or_assoc]

/-- **A part holds for a field what the last call for that field has put there.** -/
theorem get?_filled (changes : List Change) (part : Part) (field : String) :
    ((filled changes).texts part).get? field =
      lastSome? (Change.textFor? part field) changes := by
  have hnew : ((({} : FormState)).texts part).get? field = none := by
    cases part <;> rfl
  rw [filled, get?_foldl_change, hnew, Option.or_none]

theorem hasErrors_iff :
    form.hasErrors = true ↔ ∃ field message, form.error? field = some message := by
  rw [hasErrors, Bool.not_eq_true', Dict.isEmpty_eq_false_iff]
  rfl

theorem hasErrors_filled :
    (filled changes).hasErrors = true ↔ ∃ field message, .addError field message ∈ changes := by
  have hfound : ∀ field, (∃ message, (filled changes).error? field = some message) ↔
      ∃ c ∈ changes, (Change.textFor? .errors field c).isSome = true := by
    intro field
    rw [← lastSome?_isSome_iff, ← get?_filled, Option.isSome_iff_exists]
    rfl
  rw [hasErrors_iff]
  constructor
  · rintro ⟨field, h⟩
    obtain ⟨c, hc, hsome⟩ := (hfound field).mp h
    cases c with
    | addError name message => exact ⟨name, message, hc⟩
    | setValue name value => cases hsome
  · rintro ⟨field, message, hc⟩
    exact ⟨field, (hfound field).mpr ⟨_, hc, by simp [Change.textFor?]⟩⟩

end Calls

/-! ### The errors in templates -/

/-- The errors of a form as a value of templates. -/
def errorsValue (form : FormState) : Value := .ofJson (.ofTexts form.errors)

/-- What templates are told when they ask for an error of a field, or for any error. -/
def answer (mode : UndefinedMode) (form : FormState) (field? : Option String) :
    Except Fault Value :=
  Function.containsErrors.call mode (form.errorsValue :: field?.toList.map .text)

end FormState

section Values

variable {name a b : String} {d : Dict String} {fields : List (String × Json)}

theorem order_text : Value.order (.text a) (.text b) = .eq ↔ a = b := by
  rw [Value.order, Value.compareText]
  by_cases heq : a = b
  · rw [heq, if_neg (String.lt_irrefl b), if_pos rfl]
    exact iff_of_true rfl rfl
  · rw [if_neg heq]
    split <;> simp [heq]

theorem find?_ofJsonFields : Value.find? (.text name) (Value.ofJsonFields fields) =
    (lookup? name fields).map Value.ofJson := by
  induction fields with
  | nil => rfl
  | cons first rest ih =>
      rw [Value.ofJsonFields, Value.find?, lookup?, ih]
      by_cases hname : first.1 = name
      · rw [if_pos hname, if_pos (order_text.mpr hname)]
        rfl
      · rw [if_neg hname, if_neg fun h => hname (order_text.mp h)]

theorem length_ofJsonFields : (Value.ofJsonFields fields).length = fields.length := by
  induction fields with
  | nil => rfl
  | cons first rest ih => rw [Value.ofJsonFields, List.length_cons, List.length_cons, ih]

theorem attr?_obj : (Value.ofJson (.obj fields)).attr? name =
    (lookup? name fields).map Value.ofJson := by
  rw [Value.ofJson, Value.attr?, Value.entries?, Option.bind_some, find?_ofJsonFields]

theorem attr?_ofTexts : (Value.ofJson (.ofTexts d)).attr? name = (d.get? name).map .text := by
  rw [Json.ofTexts, attr?_obj, Dict.lookup?_map, Option.map_map]
  rfl

theorem length?_ofTexts : (Value.ofJson (.ofTexts d)).length? = some d.size := by
  rw [Json.ofTexts, Value.ofJson, Value.length?, length_ofJsonFields, List.length_map]
  rfl

end Values

namespace FormState

variable {mode : UndefinedMode} {form : FormState} {field : String}

theorem attr?_errors : (Value.ofJson form.toJson).attr? "errors" = some form.errorsValue := by
  have hnodup : ([("errors", Json.ofTexts form.errors), ("values", .ofTexts form.values)].map
      Prod.fst).Nodup := by simp
  rw [toJson, Json.ofFields, attr?_obj]
  show ((Dict.ofList _).get? "errors").map Value.ofJson = _
  rw [Dict.get?_ofList hnodup]
  rfl

theorem answer_field : form.answer mode (some field) =
    .ok (.bool (((form.error? field).map fun message => decide (message ≠ "")).getD false)) := by
  have hcall : form.answer mode (some field) =
      .ok (.bool (((form.errorsValue.attr? field).map Value.isTrue).getD false)) := by
    cases mode <;> rfl
  rw [hcall, errorsValue, attr?_ofTexts, Option.map_map]
  rfl

/-- Asked about a field, the function denies an empty message. -/
theorem answer_field_iff : form.answer mode (some field) = .ok (.bool true) ↔
    ∃ message, form.error? field = some message ∧ message ≠ "" := by
  rw [answer_field]
  cases form.error? field with
  | none => simp
  | some message => simp

theorem answer_any : form.answer mode none = .ok (.bool form.hasErrors) := by
  have hcall : form.answer mode none =
      .ok (.bool (decide (0 < form.errorsValue.length?.getD 0))) := rfl
  rw [hcall, errorsValue, length?_ofTexts, Option.getD_some, hasErrors, Dict.size, Dict.isEmpty]
  cases form.errors.entries <;> rfl

theorem answer_any_iff :
    form.answer mode none = .ok (.bool true) ↔
      ∃ field message, form.error? field = some message := by
  rw [answer_any, Except.ok.injEq, Value.bool.injEq, hasErrors_iff]

end FormState

/-- **Forms and templates agree on errors up to empty messages.**  The first parts say what calls
make of a form; the others are about the answers that templates are given, which are truth values
always, and how the answers about fields and the answer about the form go together. -/
theorem form_errors_answered (changes : List FormState.Change) (mode : UndefinedMode) :
    let form := FormState.filled changes
    (∀ field, form.error? field = lastSome? (FormState.Change.textFor? .errors field) changes) ∧
    (∀ field, form.value? field = lastSome? (FormState.Change.textFor? .values field) changes) ∧
    (form.hasErrors = true ↔ ∃ field message, .addError field message ∈ changes) ∧
    (∀ c part, c.part ≠ part → (form.change c).texts part = form.texts part) ∧
    (Value.ofJson form.toJson).attr? "errors" = some form.errorsValue ∧
    (∀ field, ∃ b, form.answer mode (some field) = .ok (.bool b) ∧
      (b = true ↔ ∃ message, form.error? field = some message ∧ message ≠ "")) ∧
    form.answer mode none = .ok (.bool form.hasErrors) ∧
    (∀ field, form.answer mode (some field) = .ok (.bool true) →
      form.answer mode none = .ok (.bool true)) ∧
    ((form.answer mode none = .ok (.bool true) →
        ∃ field, form.answer mode (some field) = .ok (.bool true)) ↔
      form.errors.isEmpty = true ∨
        ∃ field message, form.error? field = some message ∧ message ≠ "") := by
  intro form
  refine ⟨FormState.get?_filled changes .errors, FormState.get?_filled changes .values,
    FormState.hasErrors_filled, fun c part => FormState.texts_change, FormState.attr?_errors,
    fun field => ?_, FormState.answer_any, fun field hfield => ?_, ?_⟩
  · refine ⟨_, FormState.answer_field, ?_⟩
    rw [← @FormState.answer_field_iff mode, FormState.answer_field, Except.ok.injEq,
      Value.bool.injEq]
  · obtain ⟨message, hmessage, -⟩ := FormState.answer_field_iff.mp hfield
    exact FormState.answer_any_iff.mpr ⟨field, message, hmessage⟩
  · simp only [FormState.answer_field_iff, FormState.answer_any, Except.ok.injEq, Value.bool.injEq]
    cases hempty : form.errors.isEmpty with
    | true => simp [FormState.hasErrors, hempty]
    | false => simp [FormState.hasErrors, hempty]

/-- An error of which templates are told, and one that its empty message hides. -/
theorem form_errors_answered_hidden :
    let form := FormState.filled
      [.addError "email" "is required", .setValue "name" "Ada", .addError "name" ""]
    form.answer .strict (some "email") = .ok (.bool true) ∧
      form.answer .strict none = .ok (.bool true) ∧
      form.error? "name" = some "" ∧ form.answer .strict (some "name") = .ok (.bool false) := by
  intro form
  have hemail : form.answer .strict (some "email") = .ok (.bool true) := by rfl
  obtain ⟨-, -, -, -, -, -, -, hany, -⟩ := form_errors_answered
    [.addError "email" "is required", .setValue "name" "Ada", .addError "name" ""] .strict
  exact ⟨hemail, hany "email" hemail, rfl, rfl⟩

end Folio
