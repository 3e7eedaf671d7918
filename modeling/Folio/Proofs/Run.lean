/-
Runs of a renderer.

A run is a list of actions: a caller performs an operation, somebody edits the files, or the
token source comes to answer differently.  `Operation.perform` is the renderer's own function
for each operation; what it leads to is recorded as a `Performed`.

Two facts carry every argument about runs.  An operation changes the renderer exactly as
getting hold of the bundles does (`perform_renderer`), and what its caller sees is a function
of the token source and of the bundles it got hold of (`perform_seen`).

Each operation comes with the order in which the build that it may run lists templates.  In
other orders a run is the same up to the templates that failed builds report (`run_redrawn`).
-/
import Mathlib.Data.List.Forall2
import Folio.Proofs.Delivery

namespace Folio

variable {Request : Type}

/-- A call of a renderer. -/
inductive Operation (Request : Type) where
  | warm
  | bundleNames
  | render (request : Request) (name : String) (view : View) (sink : Sink)
  | renderText (request : Request) (name : String) (view : View)

/-- What the caller of an operation gets: its result, and the view and the sink after it. -/
inductive Outcome where
  | counted (result : Except RenderError Nat)
  | named (result : Except RenderError (List String))
  | rendered (result : Except RenderError Unit) (view : View) (sink : Sink)
  | text (result : Except RenderError String) (view : View)

/-- An operation that has been performed. -/
structure Performed (Request : Type) where
  /-- The renderer after it. -/
  renderer : Renderer Request
  log : List Event
  /-- The requests for which the token source was asked. -/
  asked : List Request
  outcome : Outcome

/-- What can be seen of an operation apart from its events and the count of builds. -/
def Performed.seen (p : Performed Request) : Outcome × List Request := (p.outcome, p.asked)

/-- A step of a renderer together with the outcome of the operation. -/
def Performed.ofStep {α : Type} (step : Step Request α) (outcome : Outcome) :
    Performed Request :=
  { renderer := step.renderer, log := step.log, asked := step.asked, outcome }

namespace Operation

/-- Performs an operation. -/
def perform (r : Renderer Request) (files : FileTree) (order : TemplateOrder) :
    Operation Request → Performed Request
  | .warm => .ofStep (r.warm files order) (.counted (r.warm files order).result)
  | .bundleNames =>
    .ofStep (r.bundleNames files order) (.named (r.bundleNames files order).result)
  | .render request name view sink =>
    let (step, view, sink) := r.render files request name view sink order
    .ofStep step (.rendered step.result view sink)
  | .renderText request name view =>
    let (step, view) := r.renderText files request name view order
    .ofStep step (.text step.result view)

/-! ### What an operation shows of the bundles -/

/-- The outcome of an operation that got hold of bundles. -/
def answer (tokens : TokenSource Request) (cache : Cache) : Operation Request → Outcome
  | .warm => .counted (.ok cache.size)
  | .bundleNames => .named (.ok cache.names)
  | .render request name view sink =>
    match cache.page tokens request name view with
    | (.error e, view) => .rendered (.error e) view sink
    | (.ok output, view) =>
      let (result, sink) := sink.deliver output.toUTF8.toList
      .rendered (result.mapError fun fault => .io { fault }) view sink
  | .renderText request name view =>
    let (result, view) := cache.page tokens request name view
    .text result view

/-- The outcome of an operation that did not. -/
def refusal (e : RenderError) : Operation Request → Outcome
  | .warm => .counted (.error e)
  | .bundleNames => .named (.error e)
  | .render _ _ view sink => .rendered (.error e) view sink
  | .renderText _ _ view => .text (.error e) view

/-- The requests for which an operation asks for a token: the one of a page that exists. -/
def asks (cache : Cache) : Operation Request → List Request
  | .warm | .bundleNames => []
  | .render request name _ _ | .renderText request name _ =>
    if (cache.get? name).isSome then [request] else []

/-- What can be seen of an operation, given what it got hold of. -/
def seen (tokens : TokenSource Request) (op : Operation Request) :
    Except RenderError Cache → Outcome × List Request
  | .ok cache => (op.answer tokens cache, op.asks cache)
  | .error e => (op.refusal e, [])

variable (op : Operation Request) (r : Renderer Request) (files : FileTree)
  (order : TemplateOrder)

theorem renderText_asked (request : Request) (name : String) (view : View) :
    (r.renderText files request name view order).1.asked =
      match (r.bundles files order).result with
      | .ok cache => (Operation.renderText request name view).asks cache
      | .error _ => [] := by
  unfold Renderer.renderText asks
  cases hb : (r.bundles files order).result with
  | error e => simp only [hb, (r.bundles_frame files order).1]
  | ok cache =>
      simp only [hb]
      cases hget : cache.get? name with
      | none => simp [(r.bundles_frame files order).1]
      | some bundle =>
          simp only [Option.isSome_some, if_true]
          split <;> rfl

/-- Delivering a text comes after everything that rendering to a text does. -/
theorem render_step (request : Request) (name : String) (view : View) (sink : Sink) :
    (r.render files request name view sink order).1.renderer =
        (r.renderText files request name view order).1.renderer ∧
      (r.render files request name view sink order).1.asked =
        (r.renderText files request name view order).1.asked ∧
      (r.render files request name view sink order).2.1 =
        (r.renderText files request name view order).2 := by
  unfold Renderer.render
  simp only
  split
  · exact ⟨rfl, rfl, rfl⟩
  · split <;> exact ⟨rfl, rfl, rfl⟩

/-- **An operation changes the renderer as getting hold of the bundles does.** -/
theorem perform_renderer :
    (op.perform r files order).renderer = (r.bundles files order).renderer := by
  cases op with
  | warm => rfl
  | bundleNames => rfl
  | render request name view sink =>
      show (r.render files request name view sink order).1.renderer = _
      rw [(render_step r files order request name view sink).1, r.renderText_renderer]
  | renderText request name view =>
      show (r.renderText files request name view order).1.renderer = _
      rw [r.renderText_renderer]

theorem renderText_seen (request : Request) (name : String) (view : View) :
    ((Operation.renderText request name view).perform r files order).seen =
      (Operation.renderText request name view).seen r.tokens (r.bundles files order).result := by
  show (Outcome.text (r.renderText files request name view order).1.result
    (r.renderText files request name view order).2,
    (r.renderText files request name view order).1.asked) = _
  rw [renderText_asked]
  cases hb : (r.bundles files order).result with
  | error e =>
      obtain ⟨hresult, hview⟩ := r.renderText_of_error files request name view order hb
      rw [hresult, hview]
      rfl
  | ok cache =>
      obtain ⟨hresult, hview⟩ := r.renderText_of_ok files request name view order hb
      rw [hresult, hview]
      rfl

theorem render_seen (request : Request) (name : String) (view : View) (sink : Sink) :
    ((Operation.render request name view sink).perform r files order).seen =
      (Operation.render request name view sink).seen r.tokens (r.bundles files order).result := by
  obtain ⟨-, hasked, hview⟩ := render_step r files order request name view sink
  show (Outcome.rendered (r.render files request name view sink order).1.result
    (r.render files request name view sink order).2.1
    (r.render files request name view sink order).2.2,
    (r.render files request name view sink order).1.asked) = _
  rw [hasked, hview, renderText_asked]
  cases hb : (r.bundles files order).result with
  | error e =>
      obtain ⟨htext, hview⟩ := r.renderText_of_error files request name view order hb
      obtain ⟨hresult, hsink⟩ := r.render_of_error files request name view sink order htext
      rw [hresult, hsink, hview]
      rfl
  | ok cache =>
      obtain ⟨htext, hview⟩ := r.renderText_of_ok files request name view order hb
      rw [hview]
      cases hpage : cache.page r.tokens request name view with
      | mk text view' =>
          rw [hpage] at htext
          simp only [seen, answer, hpage]
          cases text with
          | error e =>
              obtain ⟨hresult, hsink⟩ := r.render_of_error files request name view sink order htext
              rw [hresult, hsink]
              rfl
          | ok output =>
              obtain ⟨hresult, hsink⟩ := r.render_of_output files request name view sink order htext
              rw [hresult, hsink]
              rfl

/-- **What can be seen of an operation depends on nothing but the token source and the
bundles it got hold of.** -/
theorem perform_seen :
    (op.perform r files order).seen = op.seen r.tokens (r.bundles files order).result := by
  cases op with
  | warm =>
      show (Outcome.counted ((r.bundles files order).result.map Dict.size),
        (r.bundles files order).asked) = _
      rw [(r.bundles_frame files order).1]
      cases (r.bundles files order).result <;> rfl
  | bundleNames =>
      show (Outcome.named ((r.bundles files order).result.map Cache.names),
        (r.bundles files order).asked) = _
      rw [(r.bundles_frame files order).1]
      cases (r.bundles files order).result <;> rfl
  | render request name view sink => exact render_seen r files order request name view sink
  | renderText request name view => exact renderText_seen r files order request name view

end Operation

/-! ### Other orders of templates -/

/-- The same outcome, view and sink included, but for errors that are alike. -/
inductive Outcome.Agrees : Outcome → Outcome → Prop
  | counted {result result' : Except RenderError Nat}
      (results : Agree RenderError.Alike result result') :
      Agrees (.counted result) (.counted result')
  | named {result result' : Except RenderError (List String)}
      (results : Agree RenderError.Alike result result') : Agrees (.named result) (.named result')
  | rendered {result result' : Except RenderError Unit} {view : View} {sink : Sink}
      (results : Agree RenderError.Alike result result') :
      Agrees (.rendered result view sink) (.rendered result' view sink)
  | text {result result' : Except RenderError String} {view : View}
      (results : Agree RenderError.Alike result result') :
      Agrees (.text result view) (.text result' view)

/-- What can be seen of two operations agrees. -/
structure Performed.Agrees (p q : Performed Request) : Prop where
  outcome : p.outcome.Agrees q.outcome
  asked : p.asked = q.asked

/-- **An operation depends on the order of templates only where a build fails.** -/
theorem Operation.perform_order (op : Operation Request) (r : Renderer Request)
    (files : FileTree) (order order' : TemplateOrder) :
    (op.perform r files order).renderer = (op.perform r files order').renderer ∧
      (op.perform r files order).log = (op.perform r files order').log ∧
      (op.perform r files order).Agrees (op.perform r files order') := by
  cases op with
  | warm =>
      have h := r.bundles_order files order order'
      exact ⟨h.renderer, h.log, .counted (h.result.map _), h.asked⟩
  | bundleNames =>
      have h := r.bundles_order files order order'
      exact ⟨h.renderer, h.log, .named (h.result.map _), h.asked⟩
  | render request name view sink =>
      obtain ⟨h, hafter⟩ := r.render_order files order order' request name view sink
      simp only [perform, Performed.ofStep, hafter]
      exact ⟨h.renderer, h.log, .rendered h.result, h.asked⟩
  | renderText request name view =>
      obtain ⟨h, hview⟩ := r.renderText_order files order order' request name view
      simp only [perform, Performed.ofStep, hview]
      exact ⟨h.renderer, h.log, .text h.result, h.asked⟩

/-! ### Runs -/

/-- What happens to a renderer, or around it. -/
inductive Action (Request : Type) where
  /-- The files change in some way. -/
  | edit (change : FileTree → FileTree)
  /-- The token source answers differently from now on. -/
  | retoken (tokens : TokenSource Request)
  /-- A call, for which a build may list its templates in this order. -/
  | operation (op : Operation Request) (order : TemplateOrder)

/-- Whether an action edits the files. -/
def Action.isEdit : Action Request → Bool
  | .edit _ => true
  | _ => false

/-- The operations of a run, in order. -/
def Renderer.run (r : Renderer Request) (files : FileTree) :
    List (Action Request) → List (Performed Request)
  | [] => []
  | .edit change :: rest => r.run (change files) rest
  | .retoken tokens :: rest => { r with tokens }.run files rest
  | .operation op order :: rest =>
    let performed := op.perform r files order
    performed :: performed.renderer.run files rest

/-- The same action, perhaps with another order of templates. -/
inductive Action.Redrawn : Action Request → Action Request → Prop
  | edit (change : FileTree → FileTree) : Redrawn (.edit change) (.edit change)
  | retoken (tokens : TokenSource Request) : Redrawn (.retoken tokens) (.retoken tokens)
  | operation (op : Operation Request) (order order' : TemplateOrder) :
      Redrawn (.operation op order) (.operation op order')

/-- **A run agrees with every other one that differs in nothing but the orders of templates.** -/
theorem run_redrawn {actions actions' : List (Action Request)}
    (redrawn : List.Forall₂ Action.Redrawn actions actions') :
    ∀ (r : Renderer Request) (files : FileTree),
      List.Forall₂ Performed.Agrees (r.run files actions) (r.run files actions') := by
  induction redrawn with
  | nil => exact fun _ _ => .nil
  | cons first _ ih =>
      intro r files
      cases first with
      | edit change => exact ih r (change files)
      | retoken tokens => exact ih { r with tokens } files
      | operation op order order' =>
          obtain ⟨hrenderer, -, hagrees⟩ := op.perform_order r files order order'
          refine .cons hagrees ?_
          rw [hrenderer]
          exact ih _ files

end Folio
