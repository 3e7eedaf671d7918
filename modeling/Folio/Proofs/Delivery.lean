/-
Output reaches a sink whole or as a prefix.

A page is executed into a text before anything is written, so a failure up to there never
touches the sink.  What is left is the loop that writes the text: a sink may take the bytes
in as many portions as it likes, be interrupted on the way, or fail.  `Wrote` says what has
happened to a sink when the loop stops, and is carried through by induction on the loop: the
bytes that were taken are always an initial part of those that were offered, and the loop
succeeds exactly when they are all of them.  Flushing comes after the loop and only if it
succeeded.
-/
import Folio.Proofs.TemplateOrders

namespace Folio

namespace Sink

/-- What has happened to a sink when writing `bytes` to it has come to an end. -/
structure Wrote (before : Sink) (bytes accepted : List UInt8) (result : Except IoFault Unit)
    (after : Sink) : Prop where
  /-- What was accepted is what was offered, up to some point. -/
  initial : accepted <+: bytes
  /-- The sink holds what was accepted, and nothing else has been added to it. -/
  taken : after.taken = before.taken ++ accepted
  /-- Writing succeeds exactly when everything was accepted. -/
  complete : result = .ok () ↔ accepted = bytes
  /-- Writing does not flush. -/
  flushes : after.flushes = before.flushes
  /-- Nor does it change how flushing will go. -/
  flushFault : after.flushFault = before.flushFault

theorem Wrote.refused {before after : Sink} {b : UInt8} {bytes : List UInt8} {fault : IoFault}
    (htaken : after.taken = before.taken) (hflushes : after.flushes = before.flushes)
    (hfault : after.flushFault = before.flushFault) :
    Wrote before (b :: bytes) [] (.error fault) after :=
  ⟨List.nil_prefix, by simp [htaken], by simp, hflushes, hfault⟩

/-- A write that accepts the first `n + 1` bytes, and what the rest of the loop does. -/
theorem Wrote.portion {before middle after : Sink} {b : UInt8} {bytes accepted : List UInt8}
    {result : Except IoFault Unit} {n : Nat}
    (h : Wrote middle (bytes.drop n) accepted result after)
    (htaken : middle.taken = before.taken ++ b :: bytes.take n)
    (hflushes : middle.flushes = before.flushes)
    (hfault : middle.flushFault = before.flushFault) :
    Wrote before (b :: bytes) (b :: bytes.take n ++ accepted) result after where
  initial := by
    obtain ⟨rest, hrest⟩ := h.initial
    refine ⟨rest, ?_⟩
    rw [List.append_assoc, hrest, List.cons_append, List.take_append_drop]
  taken := by rw [h.taken, htaken, List.append_assoc]
  complete := by
    rw [h.complete]
    constructor
    · intro he
      rw [he, List.cons_append, List.take_append_drop]
    · intro he
      have hsplit : b :: bytes.take n ++ accepted = b :: bytes.take n ++ bytes.drop n := by
        rw [he, List.cons_append, List.take_append_drop]
      exact List.append_cancel_left hsplit
  flushes := h.flushes.trans hflushes
  flushFault := h.flushFault.trans hfault

/-- **The loop that writes keeps its promise, whatever the sink does.** -/
theorem writeAll_wrote (s : Sink) (bytes : List UInt8) :
    ∃ accepted, Wrote s bytes accepted (s.writeAll bytes).1 (s.writeAll bytes).2 := by
  fun_induction writeAll s bytes with
  | case1 s => exact ⟨[], List.prefix_refl _, by simp, by simp, rfl, rfl⟩
  | case2 s b bytes script _ ih =>
      -- An interruption only uses up a reply.
      obtain ⟨accepted, h⟩ := ih
      exact ⟨accepted, h.initial, h.taken, h.complete, h.flushes, h.flushFault⟩
  | case3 => exact ⟨[], .refused rfl rfl rfl⟩
  | case4 => exact ⟨[], .refused rfl rfl rfl⟩
  | case5 s b bytes n script _ ih =>
      obtain ⟨accepted, h⟩ := ih
      exact ⟨_, h.portion rfl rfl rfl⟩
  | case6 => exact ⟨[], .refused rfl rfl rfl⟩
  | case7 => exact ⟨[], .refused rfl rfl rfl⟩
  | case8 s b bytes _ n _ ih =>
      obtain ⟨accepted, h⟩ := ih
      exact ⟨_, h.portion rfl rfl rfl⟩

/-- A delivery that accepts less than everything fails with the fault of the write and does
not flush; one that accepts everything flushes once and ends as flushing does. -/
theorem deliver_wrote (s : Sink) (bytes : List UInt8) :
    ∃ accepted, accepted <+: bytes ∧ (s.deliver bytes).2.taken = s.taken ++ accepted ∧
      ((∃ fault, accepted ≠ bytes ∧ (s.writeAll bytes).1 = .error fault ∧
          (s.deliver bytes).1 = .error fault ∧ (s.deliver bytes).2.flushes = s.flushes) ∨
        (accepted = bytes ∧ (s.deliver bytes).2.flushes = s.flushes + 1 ∧
          (s.deliver bytes).1 = match s.flushFault with
            | some fault => .error fault
            | none => .ok ())) := by
  obtain ⟨accepted, h⟩ := s.writeAll_wrote bytes
  refine ⟨accepted, h.initial, ?_⟩
  unfold deliver
  cases hw : s.writeAll bytes with
  | mk result after =>
      rw [hw] at h
      cases result with
      | error fault =>
          refine ⟨h.taken, Or.inl ⟨fault, ?_, rfl, rfl, h.flushes⟩⟩
          intro he
          exact absurd (h.complete.mpr he) (by simp)
      | ok =>
          refine ⟨h.taken, Or.inr ⟨h.complete.mp rfl, ?_, ?_⟩⟩
          · show after.flushes + 1 = s.flushes + 1
            rw [h.flushes]
          · show (match after.flushFault with
              | some fault => Except.error fault
              | none => .ok ()) = _
            rw [h.flushFault]

end Sink

namespace Renderer

variable {Request : Type} (r : Renderer Request) (files : FileTree) (request : Request)
  (name : String) (view : View) (sink : Sink) (order : TemplateOrder)

/-! ### Rendering up to the writing

`render` and `renderText` share everything up to the finished text.
-/

theorem render_of_error {e : RenderError}
    (h : (r.renderText files request name view order).1.result = .error e) :
    (r.render files request name view sink order).1.result = .error e ∧
      (r.render files request name view sink order).2.2 = sink := by
  unfold render
  simp only [h, and_self]

/-- A finished text is delivered as a whole, and rendering ends as the delivery does. -/
theorem render_of_output {output : String}
    (h : (r.renderText files request name view order).1.result = .ok output) :
    (r.render files request name view sink order).1.result =
        (sink.deliver output.toUTF8.toList).1.mapError (fun fault => .io { fault }) ∧
      (r.render files request name view sink order).2.2 =
        (sink.deliver output.toUTF8.toList).2 := by
  unfold render
  simp only [h]
  cases hd : sink.deliver output.toUTF8.toList with
  | mk result after =>
      cases result with
      | ok => exact ⟨rfl, rfl⟩
      | error fault => exact ⟨rfl, rfl⟩

/--
**A page reaches the sink whole or as a prefix, and a failure before the writing not at all.**

`text` is what rendering to a text gives in the same state.  If it fails, with an error that
does not come from a sink, rendering to the sink fails as well, with the same error in the same
order of templates and one alike in any, and the sink is exactly as it was: no write, no flush.
If it gives an output, the bytes that the sink accepted are a prefix of it; rendering succeeds
exactly when that is all of it and the one flush after it went well; and otherwise either the
writing failed and the sink was not flushed, or all was accepted and the one flush failed.
-/
theorem render_delivers_prefix (order' : TemplateOrder) :
    let text := (r.renderText files request name view order').1.result
    let result := (r.render files request name view sink order).1.result
    let after := (r.render files request name view sink order).2.2
    (∀ e, text = .error e →
      (∀ cause, e ≠ .io cause) ∧
      (∃ e', result = .error e' ∧ e.Alike e' ∧ (order = order' → e' = e)) ∧ after = sink) ∧
    (∀ output, text = .ok output → ∃ accepted,
      accepted <+: output.toUTF8.toList ∧
      after.taken = sink.taken ++ accepted ∧
      (result = .ok () ↔ accepted = output.toUTF8.toList ∧
        after.flushes = sink.flushes + 1 ∧ sink.flushFault = none) ∧
      (∀ e, result = .error e → ∃ fault, e = .io { fault } ∧
        (accepted ≠ output.toUTF8.toList ∧
            (sink.writeAll output.toUTF8.toList).1 = .error fault ∧
            after.flushes = sink.flushes ∨
          accepted = output.toUTF8.toList ∧ sink.flushFault = some fault ∧
            after.flushes = sink.flushes + 1))) := by
  intro text result after
  have hagree := (r.renderText_order files order' order request name view).1.result
  constructor
  · intro e htext
    obtain ⟨e', htext', halike⟩ := hagree.exists_error htext
    obtain ⟨hresult, hafter⟩ := r.render_of_error files request name view sink order htext'
    refine ⟨?_, ⟨e', hresult, halike, ?_⟩, hafter⟩
    · rintro cause rfl
      exact r.renderText_ne_io files request name view order' cause htext
    · rintro rfl
      exact Except.error.inj (htext'.symm.trans htext)
  · intro output htext
    obtain ⟨hresult, hafter⟩ :=
      r.render_of_output files request name view sink order (hagree.ok_iff.mp htext)
    obtain ⟨accepted, hinitial, htaken, hend⟩ := sink.deliver_wrote output.toUTF8.toList
    have hresult' : result = (sink.deliver output.toUTF8.toList).1.mapError
        (fun fault => .io { fault }) := hresult
    have hafter' : after = (sink.deliver output.toUTF8.toList).2 := hafter
    refine ⟨accepted, hinitial, by rw [hafter', htaken], ?_⟩
    rw [hresult', hafter']
    rcases hend with ⟨fault, hshort, hwrite, hfault, hflushes⟩ | ⟨hall, hflushes, hflush⟩
    · -- The writing failed.
      rw [hfault]
      refine ⟨⟨fun h => by simp at h, fun h => absurd h.1 hshort⟩, ?_⟩
      intro e he
      simp only [mapError_error, Except.error.injEq] at he
      exact ⟨fault, he.symm, Or.inl ⟨hshort, hwrite, hflushes⟩⟩
    · -- Everything was accepted, and the sink was flushed.
      rw [hflush]
      cases hf : sink.flushFault with
      | none =>
          refine ⟨⟨fun _ => ⟨hall, hflushes, rfl⟩, fun _ => rfl⟩, ?_⟩
          intro e he
          simp at he
      | some fault =>
          refine ⟨⟨fun h => by simp at h, fun h => by simp at h⟩, ?_⟩
          intro e he
          simp only [mapError_error, Except.error.injEq] at he
          exact ⟨fault, he.symm, Or.inr ⟨hall, rfl, hflushes⟩⟩

end Renderer

end Folio
