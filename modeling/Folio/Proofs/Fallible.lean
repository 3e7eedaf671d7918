/-
Steps that may fail.

What it takes for a sequence of steps to succeed, what becomes of a result whose failure is named
differently, and when two results agree apart from their errors.
-/
namespace Folio

section

variable {ε ε' α β : Type}

theorem bind_eq_ok {x : Except ε α} {f : α → Except ε β} {b : β} :
    (x >>= f) = .ok b ↔ ∃ a, x = .ok a ∧ f a = .ok b := by
  cases x <;> simp [bind, Except.bind]

theorem bind_eq_error {x : Except ε α} {f : α → Except ε β} {e : ε} :
    (x >>= f) = .error e ↔ x = .error e ∨ ∃ a, x = .ok a ∧ f a = .error e := by
  cases x <;> simp [bind, Except.bind]

theorem exists_eq_error {x : Except ε α} (h : ∀ a, x ≠ .ok a) : ∃ e, x = .error e := by
  cases x with
  | ok a => exact absurd rfl (h a)
  | error e => exact ⟨e, rfl⟩

theorem map_eq_ok {x : Except ε α} {f : α → β} {b : β} :
    x.map f = .ok b ↔ ∃ a, x = .ok a ∧ f a = b := by
  cases x <;> simp [Except.map]

theorem bind_return {x : Except ε α} {f : α → β} : (x >>= fun a => pure (f a)) = x.map f := by
  cases x <;> rfl

theorem toOption_eq_some {x : Except ε α} {a : α} : x.toOption = some a ↔ x = .ok a := by
  cases x <;> simp [Except.toOption]

theorem toOption_map {x : Except ε α} {f : α → β} : (x.map f).toOption = x.toOption.map f := by
  cases x <;> rfl

theorem toOption_bind {x : Except ε α} {f : α → Except ε β} :
    (x >>= f).toOption = x.toOption.bind fun a => (f a).toOption := by
  cases x <;> rfl

variable {f : ε → ε'}

@[simp] theorem mapError_ok {a : α} : (Except.ok a : Except ε α).mapError f = .ok a := rfl

@[simp] theorem mapError_error {e : ε} :
    (Except.error e : Except ε α).mapError f = .error (f e) := rfl

theorem mapError_eq_error {x : Except ε α} {e' : ε'} :
    x.mapError f = .error e' ↔ ∃ e, x = .error e ∧ f e = e' := by
  cases x <;> simp

theorem mapError_eq_ok {x : Except ε α} {a : α} : x.mapError f = .ok a ↔ x = .ok a := by
  cases x with
  | ok b => simp
  | error e => simp

end

/-! ### Two results -/

/-- Two results are the same success, or failures with errors that are alike. -/
inductive Agree {ε α : Type} (alike : ε → ε → Prop) : Except ε α → Except ε α → Prop
  | ok (a : α) : Agree alike (.ok a) (.ok a)
  | error {e e' : ε} (errors : alike e e') : Agree alike (.error e) (.error e')

namespace Agree

variable {ε ε' α β : Type} {alike : ε → ε → Prop} {x y : Except ε α}

theorem refl (hrefl : ∀ e, alike e e) (x : Except ε α) : Agree alike x x := by
  cases x with
  | ok a => exact .ok a
  | error e => exact .error (hrefl e)

theorem ok_iff (h : Agree alike x y) {a : α} : x = .ok a ↔ y = .ok a := by
  cases h with
  | ok b => exact Iff.rfl
  | error _ => simp

theorem exists_error (h : Agree alike x y) {e : ε} (herror : x = .error e) :
    ∃ e', y = .error e' ∧ alike e e' := by
  cases h with
  | ok b => cases herror
  | error halike =>
      cases herror
      exact ⟨_, rfl, halike⟩

theorem bind {f g : α → Except ε β} (h : Agree alike x y) (hrest : ∀ a, Agree alike (f a) (g a)) :
    Agree alike (x >>= f) (y >>= g) := by
  cases h with
  | ok a => exact hrest a
  | error halike => exact .error halike

theorem map (h : Agree alike x y) (f : α → β) : Agree alike (x.map f) (y.map f) := by
  cases h with
  | ok a => exact .ok (f a)
  | error halike => exact .error halike

end Agree

end Folio
