/-
What a parsing step ensures.

A parsing step is a function of the position of the parser, and most of the parser is put
together from a handful of steps that look at the next token or take it.  Statements about it
are made over all the tokens of a template, `all`, of which some have been taken already:
`Ensures all taken step post` says that whenever `step` is begun behind the tokens `taken` and
succeeds, `post` holds of its result and of the tokens that are taken then.  Failing ensures
everything.

There is one rule for each of the small steps, always for the step together with what comes
after it, so that a proof goes through a parser from its first step to its last.
-/
import Folio.Template.Parser

namespace Folio.Template

/-- The parser stands behind the tokens `taken` of `all`. -/
def Position.At (all taken : List Token) (p : Position) : Prop :=
  all = taken ++ p.rest.map (·.token)

namespace Parse

variable {α β : Type} {all taken : List Token} {post : β → List Token → Prop}

/-- Whenever the step is begun behind `taken` and succeeds, `post` holds of its result and of
the tokens taken then. -/
def Ensures (all taken : List Token) (step : Parse α) (post : α → List Token → Prop) : Prop :=
  ∀ (p p' : Position) (a : α), p.At all taken → step p = .ok (a, p') →
    ∃ taken', p'.At all taken' ∧ post a taken'

/-- `t` is the first token that is not taken. -/
def Next (all taken : List Token) (t : Token) : Prop := ∃ rest, all = taken ++ t :: rest

theorem Next.unique {t u : Token} (ht : Next all taken t) (hu : Next all taken u) : t = u := by
  obtain ⟨rest, ht⟩ := ht
  obtain ⟨rest', hu⟩ := hu
  rw [ht] at hu
  exact (List.cons.inj (List.append_cancel_left hu)).1

theorem Next.ne_end {t : Token} (ht : Next all taken t) : all ≠ taken := by
  obtain ⟨rest, ht⟩ := ht
  rintro rfl
  simp at ht

/-! ### Steps in general -/

theorem Ensures.pure {a : β} (h : post a taken) : Ensures all taken (pure a) post := by
  intro p p' b hp hrun
  cases hrun
  exact ⟨taken, hp, h⟩

theorem Ensures.bind {step : Parse α} {next : α → Parse β} {mid : α → List Token → Prop}
    (h : Ensures all taken step mid)
    (hnext : ∀ a taken', mid a taken' → Ensures all taken' (next a) post) :
    Ensures all taken (step >>= next) post := by
  intro p p' b hp hrun
  have hrun' : (step p >>= fun r => next r.1 r.2) = .ok (b, p') := hrun
  cases hstep : step p with
  | error e => simp [hstep, Bind.bind, Except.bind] at hrun'
  | ok r =>
      rw [hstep] at hrun'
      obtain ⟨taken', hp', hmid⟩ := h _ _ _ hp hstep
      exact hnext r.1 taken' hmid _ _ _ hp' hrun'

theorem Ensures.map {step : Parse α} {f : α → β}
    (h : Ensures all taken step fun a => post (f a)) : Ensures all taken (f <$> step) post := by
  have hmap : f <$> step = step >>= fun a => Pure.pure (f a) := (bind_pure_comp f step).symm
  rw [hmap]
  exact h.bind fun a taken' ha => .pure ha

theorem Ensures.map_bind {γ : Type} {step : Parse α} {f : α → γ} {next : γ → Parse β}
    {mid : α → List Token → Prop} (h : Ensures all taken step mid)
    (hnext : ∀ a taken', mid a taken' → Ensures all taken' (next (f a)) post) :
    Ensures all taken (f <$> step >>= next) post := by
  rw [bind_map_left]
  exact h.bind hnext

theorem Ensures.return_bind {a : α} {next : α → Parse β} (h : Ensures all taken (next a) post) :
    Ensures all taken (Pure.pure a >>= next) post := by
  rw [pure_bind]
  exact h

theorem Ensures.ite {c : Prop} [Decidable c] {yes no : Parse β} (hyes : Ensures all taken yes post)
    (hno : Ensures all taken no post) : Ensures all taken (if c then yes else no) post := by
  split
  · exact hyes
  · exact hno

theorem Ensures.mono {step : Parse β} {post' : β → List Token → Prop}
    (h : Ensures all taken step post') (himp : ∀ b taken', post' b taken' → post b taken') :
    Ensures all taken step post := by
  intro p p' b hp hrun
  obtain ⟨taken', hp', hb⟩ := h _ _ _ hp hrun
  exact ⟨taken', hp', himp b taken' hb⟩

theorem ensures_reject : Ensures all taken reject post := by
  intro p p' b _ hrun
  cases hrun

theorem Ensures.reject_bind {next : α → Parse β} : Ensures all taken (reject >>= next) post := by
  intro p p' b _ hrun
  cases hrun

theorem Ensures.broken_bind {u : Unreadable} {next : α → Parse β} :
    Ensures all taken (broken u >>= next) post := by
  intro p p' b _ hrun
  cases hrun

/-! ### Steps that leave the tokens as they are -/

theorem Ensures.get_bind {next : Position → Parse β}
    (h : ∀ p, p.At all taken → Ensures all taken (next p) post) :
    Ensures all taken (get >>= next) post := by
  intro p p' b hp hrun
  exact h p hp _ _ _ hp hrun

theorem Ensures.modify_bind {f : Position → Position} {next : PUnit → Parse β}
    (hf : ∀ p, (f p).rest = p.rest) (h : Ensures all taken (next ⟨⟩) post) :
    Ensures all taken (modify f >>= next) post := by
  intro p p' b hp hrun
  have hp' : (f p).At all taken := by
    unfold Position.At
    rw [hf]
    exact hp
  exact h _ _ _ hp' hrun

theorem Ensures.nextLine_bind {next : Nat → Parse β}
    (h : ∀ line, Ensures all taken (next line) post) :
    Ensures all taken (nextLine >>= next) post := by
  unfold nextLine
  rw [bind_assoc]
  exact get_bind fun p _ => return_bind (h _)

theorem Ensures.settle_bind {next : PUnit → Parse β} (h : Ensures all taken (next ⟨⟩) post) :
    Ensures all taken (settle >>= next) post := by
  refine modify_bind (fun p => ?_) h
  split <;> rfl

theorem Ensures.nested {step : Parse β} (h : Ensures all taken step post) :
    Ensures all taken (nested step) post := by
  unfold Parse.nested
  refine get_bind fun p _ => ?_
  dsimp only
  split
  · exact ensures_reject
  · refine modify_bind (fun _ => rfl) (h.bind fun b taken' hb => ?_)
    exact modify_bind (fun _ => rfl) (.pure hb)

/-! ### Steps that look at a token or take it -/

theorem Ensures.peek_bind {next : Option Token → Parse β}
    (h : ∀ r, (∀ t, r = some t → Next all taken t) → Ensures all taken (next r) post) :
    Ensures all taken (peek >>= next) post := by
  unfold peek
  rw [bind_assoc]
  refine get_bind fun p hp => ?_
  unfold Position.At at hp
  split
  · rename_i t rest hrest
    rw [hrest] at hp
    refine h (some t.token) fun u hu => ?_
    cases hu
    exact ⟨_, hp⟩
  · exact broken_bind
  · exact h none (by simp)

theorem Ensures.take_bind {next : Option Token → Parse β}
    (hsome : ∀ t, Next all taken t → Ensures all (taken ++ [t]) (next (some t)) post)
    (hnone : all = taken → Ensures all taken (next none) post) :
    Ensures all taken (take >>= next) post := by
  unfold take
  rw [bind_assoc]
  refine get_bind fun p hp => ?_
  unfold Position.At at hp
  split
  · rename_i t rest hrest
    rw [hrest] at hp
    intro q q' b _ hrun
    refine hsome t.token ⟨_, hp⟩ _ _ _ ?_ hrun
    unfold Position.At
    simpa using hp
  · exact broken_bind
  · rename_i hrest _
    rw [hrest] at hp
    exact hnone (by simpa using hp)

theorem discard_eq (step : Parse α) : discard step = step >>= fun _ => pure ⟨⟩ :=
  (bind_pure_comp (fun _ => PUnit.unit) step).symm

theorem Ensures.discard_bind {next : PUnit → Parse β} {t : Token} (ht : Next all taken t)
    (h : Ensures all (taken ++ [t]) (next ⟨⟩) post) :
    Ensures all taken (discard take >>= next) post := by
  rw [discard_eq, bind_assoc]
  refine take_bind (fun t' ht' => ?_) fun hend => absurd hend ht.ne_end
  rw [← ht.unique ht']
  exact return_bind h

theorem Ensures.discard_take_bind {next : PUnit → Parse β}
    (hsome : ∀ t, Next all taken t → Ensures all (taken ++ [t]) (next ⟨⟩) post)
    (hnone : all = taken → Ensures all taken (next ⟨⟩) post) :
    Ensures all taken (discard take >>= next) post := by
  rw [discard_eq, bind_assoc]
  exact take_bind (fun t ht => return_bind (hsome t ht)) fun hend => return_bind (hnone hend)

theorem Ensures.discard_step_bind {step : Parse α} {next : PUnit → Parse β}
    {mid : List Token → Prop} (hstep : Ensures all taken step fun _ taken' => mid taken')
    (h : ∀ taken', mid taken' → Ensures all taken' (next ⟨⟩) post) :
    Ensures all taken (discard step >>= next) post := by
  rw [discard_eq, bind_assoc]
  exact hstep.bind fun _ taken' hmid => return_bind (h taken' hmid)

theorem Ensures.discard_any_bind {step : Parse α} {next : PUnit → Parse β}
    (hstep : Ensures all taken step fun _ _ => True)
    (h : ∀ taken', Ensures all taken' (next ⟨⟩) post) :
    Ensures all taken (discard step >>= next) post :=
  discard_step_bind hstep fun taken' _ => h taken'

theorem take_ensures : Ensures all taken take fun _ _ => True := by
  rw [← bind_pure take]
  exact .take_bind (fun t _ => .pure trivial) fun _ => .pure trivial

theorem Ensures.takeIf_bind {f : Token → Bool} {next : Bool → Parse β}
    (htrue : ∀ t, f t = true → Next all taken t →
      Ensures all (taken ++ [t]) (next true) post)
    (hfalse : Ensures all taken (next false) post) :
    Ensures all taken (takeIf f >>= next) post := by
  unfold takeIf
  rw [bind_assoc]
  refine peek_bind fun r hr => ?_
  split
  · rename_i t
    split
    · rename_i hf
      rw [bind_assoc]
      exact discard_bind (hr t rfl) (return_bind (htrue t hf (hr t rfl)))
    · exact return_bind hfalse
  · exact return_bind hfalse

/-- Whether a token was taken does not matter. -/
theorem takeIf_ensures {f : Token → Bool} : Ensures all taken (takeIf f) fun _ _ => True := by
  rw [← bind_pure (takeIf f)]
  exact .takeIf_bind (fun t _ _ => .pure trivial) (.pure trivial)

theorem Ensures.expect_bind {f : Token → Bool} {next : PUnit → Parse β}
    (h : ∀ t, f t = true → Next all taken t → Ensures all (taken ++ [t]) (next ⟨⟩) post) :
    Ensures all taken (expect f >>= next) post := by
  unfold expect
  rw [bind_assoc]
  refine take_bind (fun t ht => ?_) fun _ => ?_
  · by_cases hf : f t = true
    · simp only [hf, if_true, pure_bind]
      exact h t hf ht
    · simp only [hf, Bool.false_eq_true, if_false]
      exact reject_bind
  · exact reject_bind

/-- Taking a name, which is the first token that is not taken. -/
theorem Ensures.name_bind {next : String → Parse β}
    (h : ∀ s, Next all taken (.ident s) → Ensures all (taken ++ [.ident s]) (next s) post) :
    Ensures all taken (identifier >>= next) post := by
  unfold identifier
  rw [bind_assoc]
  refine take_bind (fun t ht => ?_) fun _ => ?_
  · split
    · rename_i s hs
      cases hs
      rw [pure_bind]
      exact h s ht
    · exact reject_bind
  · exact reject_bind

theorem Ensures.identifier_bind {next : String → Parse β}
    (h : ∀ s, Ensures all (taken ++ [.ident s]) (next s) post) :
    Ensures all taken (identifier >>= next) post :=
  name_bind fun s _ => h s

end Parse

end Folio.Template
