/-
Concurrent first use publishes one set of bundles.

Any number of calls share a cell for the bundles and a count of builds.  A call may start a
build only while the cell is empty and nobody builds; the others wait.  A build that succeeds
is counted first and fills the cell in a later step; one that fails ends its call, and a call
that waits may build next, from files that may have changed and with its templates in another
order.  Once a call has its bundles it looks the page up, asks for the token, executes, writes
and flushes, each in a step of its own, and the steps of different calls interleave in any way.

One assumption is made throughout a run: the token source and the functions of the site have no
state, so what they answer depends on what they are asked and not on the time.  As to tokens this
is no restriction, since nothing is said about requests: a request may carry the call that it
belongs to, and then any tokens at all can be issued to the calls.

Since the count runs ahead of the cell, "one build has been counted if and only if the cell
is filled" is no invariant.  `Inv` therefore speaks of the call in between as well: whoever
has been counted is alone, finds the cell empty, and accounts for the one success.  `Inv.step`
takes it over a step, and `inv_of_run` over a run.
-/
import Mathlib.Logic.Function.Basic
import Folio.Proofs.Snapshot

namespace Folio

variable {Request : Type}

namespace Operation

/-- The page that an operation renders, with its request and its view. -/
def page? : Operation Request → Option (Request × String × View)
  | .warm | .bundleNames => none
  | .render request name view _ | .renderText request name view => some (request, name, view)

/-- The outcome of an operation that ends with an error and leaves a view. -/
def failure (e : RenderError) (view : View) : Operation Request → Outcome
  | .warm => .counted (.error e)
  | .bundleNames => .named (.error e)
  | .render _ _ _ sink => .rendered (.error e) view sink
  | .renderText _ _ _ => .text (.error e) view

theorem answer_of_page_error {op : Operation Request} {tokens : TokenSource Request}
    {cache : Cache} {request : Request} {name : String} {view view' : View} {e : RenderError}
    (hop : op.page? = some (request, name, view))
    (hpage : cache.page tokens request name view = (.error e, view')) :
    op.answer tokens cache = op.failure e view' := by
  cases op with
  | warm => simp [page?] at hop
  | bundleNames => simp [page?] at hop
  | render request' name' view'' sink =>
      simp only [page?, Option.some.injEq, Prod.mk.injEq] at hop
      obtain ⟨rfl, rfl, rfl⟩ := hop
      simp only [answer, hpage, failure]
  | renderText request' name' view'' =>
      simp only [page?, Option.some.injEq, Prod.mk.injEq] at hop
      obtain ⟨rfl, rfl, rfl⟩ := hop
      simp only [answer, hpage, failure]

end Operation

/-- The error that an operation ended with. -/
def Outcome.error? : Outcome → Option RenderError
  | .counted (.error e) | .named (.error e) | .rendered (.error e) _ _ | .text (.error e) _ =>
    some e
  | _ => none

namespace FirstUse

/-! ### Calls and their steps -/

/-- How far a call has come. -/
inductive Phase where
  /-- It has no bundles yet, and waits if it may not build. -/
  | resolving
  | building
  /-- Its build has succeeded and was counted; the cell is not filled yet. -/
  | counted (cache : Cache)
  | resolved (cache : Cache)
  | found (cache : Cache) (bundle : Bundle)
  /-- The token is in the view. -/
  | stamped (cache : Cache) (bundle : Bundle) (view : View)
  | executed (cache : Cache) (output : String) (view : View)
  /-- The sink has accepted the output and is not flushed yet. -/
  | written (cache : Cache) (view : View) (sink : Sink)
  /-- It has returned; the bundles are those it used, if it got that far. -/
  | done (cache : Option Cache) (outcome : Outcome)

namespace Phase

/-- Whether a call is in the middle of a build. -/
def Building : Phase → Prop
  | .building | .counted _ => True
  | _ => False

/-- The bundles of a call that has got past resolving them. -/
def cache? : Phase → Option Cache
  | .resolved cache | .found cache _ | .stamped cache _ _ | .executed cache _ _
  | .written cache _ _ => some cache
  | .done cache _ => cache
  | .resolving | .building | .counted _ => none

end Phase

/-- The steps that a call takes by itself once it has its bundles. -/
inductive Advance (tokens : TokenSource Request) : Operation Request → Phase → Phase → Prop
  | count {cache : Cache} :
      Advance tokens .warm (.resolved cache) (.done (some cache) (.counted (.ok cache.size)))
  | list {cache : Cache} :
      Advance tokens .bundleNames (.resolved cache)
        (.done (some cache) (.named (.ok cache.names)))
  | miss {op : Operation Request} {cache : Cache} {request : Request} {name : String}
      {view : View} (page : op.page? = some (request, name, view))
      (missing : cache.get? name = none) :
      Advance tokens op (.resolved cache)
        (.done (some cache) (op.failure (.notFound name) view))
  | find {op : Operation Request} {cache : Cache} {bundle : Bundle} {request : Request}
      {name : String} {view : View} (page : op.page? = some (request, name, view))
      (present : cache.get? name = some bundle) :
      Advance tokens op (.resolved cache) (.found cache bundle)
  | ask {op : Operation Request} {cache : Cache} {bundle : Bundle} {request : Request}
      {name : String} {view : View} (page : op.page? = some (request, name, view)) :
      Advance tokens op (.found cache bundle)
        (.stamped cache bundle (view.withToken (tokens.issue request)))
  | execute {op : Operation Request} {cache : Cache} {bundle : Bundle} {view : View}
      {output : String} (success : bundle.execute (.ofJson view.toJson) = .ok output) :
      Advance tokens op (.stamped cache bundle view) (.executed cache output view)
  | crash {op : Operation Request} {cache : Cache} {bundle : Bundle} {request : Request}
      {name : String} {view view' : View} {e : Template.Error}
      (page : op.page? = some (request, name, view))
      (failure : bundle.execute (.ofJson view'.toJson) = .error e) :
      Advance tokens op (.stamped cache bundle view')
        (.done (some cache) (op.failure (.execution name e) view'))
  | hand {request : Request} {name : String} {view view' : View} {cache : Cache}
      {output : String} :
      Advance tokens (.renderText request name view) (.executed cache output view')
        (.done (some cache) (.text (.ok output) view'))
  | write {request : Request} {name : String} {view view' : View} {sink sink' : Sink}
      {cache : Cache} {output : String}
      (success : sink.writeAll output.toUTF8.toList = (.ok (), sink')) :
      Advance tokens (.render request name view sink) (.executed cache output view')
        (.written cache view' sink')
  | cut {request : Request} {name : String} {view view' : View} {sink sink' : Sink}
      {cache : Cache} {output : String} {fault : IoFault}
      (failure : sink.writeAll output.toUTF8.toList = (.error fault, sink')) :
      Advance tokens (.render request name view sink) (.executed cache output view')
        (.done (some cache) (.rendered (.error (.io { fault })) view' sink'))
  | flush {op : Operation Request} {cache : Cache} {view : View} {sink : Sink} :
      Advance tokens op (.written cache view sink)
        (.done (some cache) (.rendered (sink.flush.1.mapError fun fault => .io { fault }) view
          sink.flush.2))

variable {ι : Type} [DecidableEq ι]

/-- What the calls share, and how far each of them has come. -/
structure State (ι : Type) where
  cell : Option Cache := none
  /-- How many builds have been counted. -/
  builds : Nat := 0
  phase : ι → Phase := fun _ => .resolving

/-- A call moves on to a phase. -/
def State.move (s : State ι) (i : ι) (p : Phase) : State ι :=
  { s with phase := Function.update s.phase i p }

/-- What a step does. -/
inductive Label (ι : Type) where
  | start (i : ι)
  /-- A build from these files, with templates in this order, succeeds. -/
  | succeed (i : ι) (files : FileTree) (order : TemplateOrder)
  /-- A build from these files, with templates in this order, fails. -/
  | fail (i : ι) (files : FileTree) (order : TemplateOrder)
  | fill (i : ι)
  | reuse (i : ι)
  | advance (i : ι)

/-- Whether a step is the success of a build. -/
def Label.isSuccess : Label ι → Bool
  | .succeed .. => true
  | _ => false

/-- One step of one of the calls. -/
inductive Step (config : Config) (tokens : TokenSource Request) (calls : ι → Operation Request) :
    State ι → Label ι → State ι → Prop
  | start {s : State ι} {i : ι} (waiting : s.phase i = .resolving) (empty : s.cell = none)
      (idle : ∀ j, ¬(s.phase j).Building) :
      Step config tokens calls s (.start i) (s.move i .building)
  | succeed {s : State ι} {i : ι} {files : FileTree} {order : TemplateOrder} {cache : Cache}
      (builder : s.phase i = .building)
      (success : (buildSite config files order).result = .ok cache) :
      Step config tokens calls s (.succeed i files order)
        ({ s with builds := s.builds + 1 }.move i (.counted cache))
  | fail {s : State ι} {i : ι} {files : FileTree} {order : TemplateOrder} {e : BuildError}
      (builder : s.phase i = .building)
      (failure : (buildSite config files order).result = .error e) :
      Step config tokens calls s (.fail i files order)
        (s.move i (.done none ((calls i).refusal (.build e))))
  | fill {s : State ι} {i : ι} {cache : Cache} (counted : s.phase i = .counted cache) :
      Step config tokens calls s (.fill i)
        ({ s with cell := some cache }.move i (.resolved cache))
  | reuse {s : State ι} {i : ι} {cache : Cache} (waiting : s.phase i = .resolving)
      (filled : s.cell = some cache) :
      Step config tokens calls s (.reuse i) (s.move i (.resolved cache))
  | advance {s : State ι} {i : ι} {p : Phase}
      (moves : Advance tokens (calls i) (s.phase i) p) :
      Step config tokens calls s (.advance i) (s.move i p)

/-- A run of the calls with its steps, the latest first. -/
inductive Run (config : Config) (tokens : TokenSource Request) (calls : ι → Operation Request)
    (start : State ι) : List (Label ι) → State ι → Prop
  | nil : Run config tokens calls start [] start
  | snoc {trace : List (Label ι)} {s s' : State ι} {label : Label ι}
      (run : Run config tokens calls start trace s)
      (step : Step config tokens calls s label s') :
      Run config tokens calls start (label :: trace) s'

/-! ### What a call has done agrees with what it would do alone -/

/-- What is known of a call from the phase it is in: everything it has computed so far is
what its bundles answer. -/
def Phase.Consistent (tokens : TokenSource Request) (op : Operation Request) : Phase → Prop
  | .resolving | .building | .counted _ | .resolved _ => True
  | .found cache bundle => ∃ request name view,
      op.page? = some (request, name, view) ∧ cache.get? name = some bundle
  | .stamped cache bundle view' => ∃ request name view,
      op.page? = some (request, name, view) ∧ cache.get? name = some bundle ∧
        view' = view.withToken (tokens.issue request)
  | .executed cache output view' => ∃ request name view,
      op.page? = some (request, name, view) ∧
        cache.page tokens request name view = (.ok output, view')
  | .written cache view' sink' => ∃ request name view sink output,
      op = .render request name view sink ∧
        cache.page tokens request name view = (.ok output, view') ∧
        sink.writeAll output.toUTF8.toList = (.ok (), sink')
  | .done (some cache) outcome => outcome = op.answer tokens cache
  | .done none _ => True

theorem page_of_get? {cache : Cache} {tokens : TokenSource Request} {request : Request}
    {name : String} {view : View} {bundle : Bundle} (h : cache.get? name = some bundle) :
    cache.page tokens request name view =
      ((bundle.execute (.ofJson (view.withToken (tokens.issue request)).toJson)).mapError
        (.execution name), view.withToken (tokens.issue request)) := by
  unfold Cache.page
  rw [h]

/-- **A call that moves on by itself keeps to its answer and to its bundles.** -/
theorem Advance.consistent {tokens : TokenSource Request} {op : Operation Request}
    {p p' : Phase} (h : Advance tokens op p p') (hp : p.Consistent tokens op) :
    p'.Consistent tokens op ∧ p'.cache? = p.cache? ∧ ¬p.Building ∧ ¬p'.Building := by
  refine ⟨?_, by cases h <;> rfl, by cases h <;> exact id, by cases h <;> exact id⟩
  cases h with
  | count => rfl
  | list => rfl
  | miss hop hmissing =>
      refine (Operation.answer_of_page_error hop ?_).symm
      unfold Cache.page
      rw [hmissing]
  | find hop hpresent => exact ⟨_, _, _, hop, hpresent⟩
  | ask hop =>
      obtain ⟨request, name, view, hop', hpresent⟩ := hp
      rw [hop] at hop'
      simp only [Option.some.injEq, Prod.mk.injEq] at hop'
      obtain ⟨rfl, rfl, rfl⟩ := hop'
      exact ⟨_, _, _, hop, hpresent, rfl⟩
  | execute hsuccess =>
      obtain ⟨request, name, view, hop, hpresent, rfl⟩ := hp
      refine ⟨request, name, view, hop, ?_⟩
      rw [page_of_get? hpresent, hsuccess]
      rfl
  | crash hop hfailure =>
      obtain ⟨request, name, view, hop', hpresent, rfl⟩ := hp
      rw [hop] at hop'
      simp only [Option.some.injEq, Prod.mk.injEq] at hop'
      obtain ⟨rfl, rfl, rfl⟩ := hop'
      refine (Operation.answer_of_page_error hop ?_).symm
      rw [page_of_get? hpresent, hfailure]
      rfl
  | hand =>
      obtain ⟨request, name, view, hop, hpage⟩ := hp
      simp only [Operation.page?, Option.some.injEq, Prod.mk.injEq] at hop
      obtain ⟨rfl, rfl, rfl⟩ := hop
      simp only [Phase.Consistent, Operation.answer, hpage]
  | write hsuccess =>
      obtain ⟨request, name, view, hop, hpage⟩ := hp
      simp only [Operation.page?, Option.some.injEq, Prod.mk.injEq] at hop
      obtain ⟨rfl, rfl, rfl⟩ := hop
      exact ⟨_, _, _, _, _, rfl, hpage, hsuccess⟩
  | cut hfailure =>
      obtain ⟨request, name, view, hop, hpage⟩ := hp
      simp only [Operation.page?, Option.some.injEq, Prod.mk.injEq] at hop
      obtain ⟨rfl, rfl, rfl⟩ := hop
      simp only [Phase.Consistent, Operation.answer, hpage, Sink.deliver, hfailure]
      rfl
  | flush =>
      obtain ⟨request, name, view, sink, output, rfl, hpage, hwrite⟩ := hp
      simp only [Phase.Consistent, Operation.answer, hpage, Sink.deliver, hwrite]

/-! ### The invariant -/

/-- The cell, the count and the call that builds. -/
structure Book (trace : List (Label ι)) (s : State ι) : Prop where
  /-- At most one call builds. -/
  alone : ∀ i j, (s.phase i).Building → (s.phase j).Building → i = j
  /-- While a call builds the cell is empty. -/
  empty : ∀ i, (s.phase i).Building → s.cell = none
  /-- As long as its build has not ended nobody has succeeded. -/
  fresh : ∀ i, s.phase i = .building → s.builds = 0
  /-- A call whose build was counted is the one success. -/
  counted : ∀ i cache, s.phase i = .counted cache → s.builds = 1
  /-- So is the one that filled the cell. -/
  filled : ∀ cache, s.cell = some cache → s.builds = 1
  /-- Where nobody builds and the cell is empty nobody has succeeded. -/
  untouched : s.cell = none → (∀ i, ¬(s.phase i).Building) → s.builds = 0
  /-- The count is that of the successes. -/
  successes : trace.countP Label.isSuccess = s.builds

/-- What the calls do with the bundles. -/
structure Use (config : Config) (tokens : TokenSource Request) (calls : ι → Operation Request)
    (trace : List (Label ι)) (s : State ι) : Prop where
  /-- Whoever has got past resolving uses the bundles in the cell. -/
  shared : ∀ i cache, (s.phase i).cache? = some cache → s.cell = some cache
  /-- What a call has computed is what its bundles answer. -/
  consistent : ∀ i, (s.phase i).Consistent tokens (calls i)
  /-- A call that returned without bundles has run a build itself, which failed. -/
  refused : ∀ i outcome, s.phase i = .done none outcome →
    ∃ files order e, Label.fail i files order ∈ trace ∧
      (buildSite config files order).result = .error e ∧
      outcome = (calls i).refusal (.build e)

/-- What holds in every state that calls can reach; `trace` is what they have done. -/
structure Inv (config : Config) (tokens : TokenSource Request) (calls : ι → Operation Request)
    (trace : List (Label ι)) (s : State ι) : Prop where
  book : Book trace s
  use : Use config tokens calls trace s

omit [DecidableEq ι] in
theorem inv_start (config : Config) (tokens : TokenSource Request)
    (calls : ι → Operation Request) : Inv config tokens calls [] ({} : State ι) where
  book :=
    { alone := by intro i j hi; exact hi.elim
      empty := by intro i hi; exact hi.elim
      fresh := by intro i hi; simp at hi
      counted := by intro i cache hi; simp at hi
      filled := by intro cache hcell; simp at hcell
      untouched := by intro _ _; rfl
      successes := rfl }
  use :=
    { shared := by intro i cache hi; simp [Phase.cache?] at hi
      consistent := by intro i; trivial
      refused := by intro i outcome hi; simp at hi }

section Steps

variable {config : Config} {tokens : TokenSource Request} {calls : ι → Operation Request}
  {trace : List (Label ι)} {s s' : State ι} {label : Label ι} {i : ι} {p : Phase}

@[simp] theorem State.move_cell : (s.move i p).cell = s.cell := rfl

@[simp] theorem State.move_builds : (s.move i p).builds = s.builds := rfl

theorem State.move_phase_self : (s.move i p).phase i = p := by
  simp [move]

theorem State.move_phase_other {j : ι} (h : j ≠ i) : (s.move i p).phase j = s.phase j := by
  simp [move, Function.update_of_ne h]

/-- Something holds of all phases after a move if it does of the new one and of the others. -/
theorem State.forall_move {P : ι → Phase → Prop} (hself : P i p)
    (hother : ∀ j, j ≠ i → P j (s.phase j)) : ∀ j, P j ((s.move i p).phase j) := by
  intro j
  by_cases hj : j = i
  · subst hj
    rw [move_phase_self]
    exact hself
  · rw [move_phase_other hj]
    exact hother j hj

/-! ### The books are kept in order -/

/-- A move of a call that neither builds nor begins to. -/
theorem Book.move_quiet (h : Book trace s) (hlabel : label.isSuccess = false)
    (hi : ¬(s.phase i).Building) (hp : ¬p.Building) : Book (label :: trace) (s.move i p) := by
  -- Whoever builds after the move has not moved.
  have hsame : ∀ j, ((s.move i p).phase j).Building → (s.move i p).phase j = s.phase j := by
    intro j hj
    by_cases hji : j = i
    · subst hji
      rw [State.move_phase_self] at hj
      exact absurd hj hp
    · exact State.move_phase_other hji
  have hbuilding : ∀ j, ((s.move i p).phase j).Building → (s.phase j).Building := by
    intro j hj
    rw [hsame j hj] at hj
    exact hj
  refine ⟨?_, ?_, ?_, ?_, h.filled, ?_, ?_⟩
  · intro a b ha hb
    exact h.alone a b (hbuilding a ha) (hbuilding b hb)
  · intro j hj
    exact h.empty j (hbuilding j hj)
  · intro j hj
    exact h.fresh j (by rw [← hsame j (by rw [hj]; trivial), hj])
  · intro j cache hj
    exact h.counted j cache (by rw [← hsame j (by rw [hj]; trivial), hj])
  · intro hcell hidle
    refine h.untouched hcell fun j hj => ?_
    by_cases hji : j = i
    · subst hji
      exact hi hj
    · refine hidle j ?_
      rw [State.move_phase_other hji]
      exact hj
  · rw [List.countP_cons, h.successes]
    simp [hlabel]

/-- A call starts a build where nobody builds and the cell is empty. -/
theorem Book.start (h : Book trace s) (hempty : s.cell = none)
    (hidle : ∀ j, ¬(s.phase j).Building) : Book (.start i :: trace) (s.move i .building) := by
  have honly : ∀ j, ((s.move i .building).phase j).Building → j = i := by
    intro j hj
    by_contra hji
    rw [State.move_phase_other hji] at hj
    exact hidle j hj
  have hbuilds : s.builds = 0 := h.untouched hempty hidle
  refine ⟨?_, fun _ _ => hempty, fun _ _ => hbuilds, ?_, h.filled, fun _ _ => hbuilds, ?_⟩
  · intro a b ha hb
    rw [honly a ha, honly b hb]
  · intro j cache hj
    have hji : j = i := honly j (by rw [hj]; trivial)
    subst hji
    rw [State.move_phase_self] at hj
    simp at hj
  · rw [List.countP_cons, h.successes]
    rfl

/-- A call that builds is the only one to do so; after a move of it that ends the building
nobody does. -/
theorem Book.idle_of_move (h : Book trace s) (hi : (s.phase i).Building)
    (hp : ¬p.Building) (j : ι) : ¬((s.move i p).phase j).Building := by
  intro hj
  by_cases hji : j = i
  · subst hji
    rw [State.move_phase_self] at hj
    exact hp hj
  · rw [State.move_phase_other hji] at hj
    exact hji (h.alone j i hj hi)

/-- A build succeeds and is counted; its call goes on alone. -/
theorem Book.succeed {cache : Cache} {files : FileTree} {order : TemplateOrder} (h : Book trace s)
    (hi : s.phase i = .building) :
    Book (.succeed i files order :: trace)
      ({ s with builds := s.builds + 1 }.move i (.counted cache)) := by
  have hbuilding : (s.phase i).Building := by rw [hi]; trivial
  have hcell : s.cell = none := h.empty i hbuilding
  have hbuilds : s.builds + 1 = 1 := by rw [h.fresh i hi]
  have honly : ∀ j, (({ s with builds := s.builds + 1 }.move i
      (.counted cache) : State ι).phase j).Building → j = i := by
    intro j hj
    by_contra hji
    rw [State.move_phase_other hji] at hj
    exact hji (h.alone j i hj hbuilding)
  refine ⟨?_, fun _ _ => hcell, ?_, fun _ _ _ => hbuilds, fun _ _ => hbuilds, ?_, ?_⟩
  · intro a b ha hb
    rw [honly a ha, honly b hb]
  · intro j hj
    have hji : j = i := honly j (by rw [hj]; trivial)
    subst hji
    rw [State.move_phase_self] at hj
    simp at hj
  · intro _ hidle
    refine absurd ?_ (hidle i)
    rw [State.move_phase_self]
    trivial
  · rw [List.countP_cons, h.successes]
    rfl

/-- A build fails, and everything is as it was before it. -/
theorem Book.fail {outcome : Outcome} {files : FileTree} {order : TemplateOrder} (h : Book trace s)
    (hi : s.phase i = .building) :
    Book (.fail i files order :: trace) (s.move i (.done none outcome)) := by
  have hbuilding : (s.phase i).Building := by rw [hi]; trivial
  have hidle := h.idle_of_move hbuilding (p := .done none outcome) id
  have hbuilds : s.builds = 0 := h.fresh i hi
  refine ⟨?_, ?_, fun _ _ => hbuilds, ?_, h.filled, fun _ _ => hbuilds, ?_⟩
  · intro a b ha _
    exact absurd ha (hidle a)
  · intro j hj
    exact absurd hj (hidle j)
  · intro j cache hj
    exact absurd (by rw [hj]; trivial) (hidle j)
  · rw [List.countP_cons, h.successes]
    rfl

/-- A call whose build was counted fills the cell. -/
theorem Book.fill {cache : Cache} (h : Book trace s) (hi : s.phase i = .counted cache) :
    Book (.fill i :: trace) ({ s with cell := some cache }.move i (.resolved cache)) := by
  have hbuilding : (s.phase i).Building := by rw [hi]; trivial
  have hidle : ∀ j, ¬(({ s with cell := some cache }.move i
      (.resolved cache) : State ι).phase j).Building :=
    h.idle_of_move hbuilding (p := .resolved cache) id
  have hbuilds : s.builds = 1 := h.counted i cache hi
  refine ⟨?_, ?_, ?_, fun _ _ _ => hbuilds, fun _ _ => hbuilds, ?_, ?_⟩
  · intro a b ha _
    exact absurd ha (hidle a)
  · intro j hj
    exact absurd hj (hidle j)
  · intro j hj
    exact absurd (by rw [hj]; trivial) (hidle j)
  · intro hcell
    simp at hcell
  · rw [List.countP_cons, h.successes]
    rfl

/-! ### The bundles are used as they are published -/

theorem Use.move (h : Use config tokens calls trace s)
    (hshared : ∀ cache, p.cache? = some cache → s.cell = some cache)
    (hconsistent : p.Consistent tokens (calls i))
    (hrefused : ∀ outcome, p = .done none outcome →
      ∃ files order e, Label.fail i files order ∈ label :: trace ∧
        (buildSite config files order).result = .error e ∧
        outcome = (calls i).refusal (.build e)) :
    Use config tokens calls (label :: trace) (s.move i p) where
  shared := State.forall_move (P := fun _ q => ∀ cache, q.cache? = some cache →
    s.cell = some cache) hshared fun j _ => h.shared j
  consistent := State.forall_move (P := fun j q => q.Consistent tokens (calls j)) hconsistent
    fun j _ => h.consistent j
  refused := by
    refine State.forall_move (P := fun j q => ∀ outcome, q = .done none outcome →
      ∃ files order e, Label.fail j files order ∈ label :: trace ∧
        (buildSite config files order).result = .error e ∧
        outcome = (calls j).refusal (.build e)) hrefused ?_
    intro j _ outcome hj
    obtain ⟨files, order, e, hmem, hbuild, houtcome⟩ := h.refused j outcome hj
    exact ⟨files, order, e, List.mem_cons_of_mem _ hmem, hbuild, houtcome⟩

theorem Advance.ne_refused {op : Operation Request} {p' : Phase} (h : Advance tokens op p p')
    (outcome : Outcome) : p' ≠ .done none outcome := by
  intro he
  cases h <;> simp at he

/-- **Every step of every call keeps the invariant.** -/
theorem Inv.step (h : Inv config tokens calls trace s) (hs : Step config tokens calls s label s') :
    Inv config tokens calls (label :: trace) s' := by
  obtain ⟨hbook, huse⟩ := h
  cases hs with
  | start _ hempty hidle =>
      refine ⟨hbook.start hempty hidle, huse.move ?_ trivial ?_⟩
      · intro cache hc
        simp [Phase.cache?] at hc
      · intro outcome ho
        simp at ho
  | @succeed i files order cache hbuilder hsuccess =>
      have huse' : Use config tokens calls trace { s with builds := s.builds + 1 } :=
        ⟨huse.shared, huse.consistent, huse.refused⟩
      refine ⟨hbook.succeed hbuilder, huse'.move ?_ trivial ?_⟩
      · intro cache hc
        simp [Phase.cache?] at hc
      · intro outcome ho
        simp at ho
  | @fail i files order e hbuilder hfailure =>
      refine ⟨hbook.fail hbuilder, huse.move ?_ trivial ?_⟩
      · intro cache hc
        simp [Phase.cache?] at hc
      · intro outcome ho
        simp only [Phase.done.injEq, true_and] at ho
        exact ⟨files, order, e, List.mem_cons_self, hfailure, ho.symm⟩
  | @fill i cache hcounted =>
      have hcell : s.cell = none := hbook.empty i (by rw [hcounted]; trivial)
      have huse' : Use config tokens calls trace { s with cell := some cache } := by
        refine ⟨?_, huse.consistent, huse.refused⟩
        -- Nobody has got past resolving while the cell was empty.
        intro j cache' hj
        have hsome := huse.shared j cache' hj
        rw [hcell] at hsome
        simp at hsome
      refine ⟨hbook.fill hcounted, huse'.move ?_ trivial ?_⟩
      · intro cache' hc
        exact hc
      · intro outcome ho
        simp at ho
  | @reuse i cache hwaiting hfilled =>
      have hi : ¬(s.phase i).Building := by rw [hwaiting]; exact id
      refine ⟨hbook.move_quiet rfl hi id, huse.move ?_ trivial ?_⟩
      · intro cache' hc
        rw [hfilled]
        exact hc
      · intro outcome ho
        simp at ho
  | @advance i p hmoves =>
      obtain ⟨hconsistent, hcache, hi, hp⟩ := hmoves.consistent (huse.consistent i)
      refine ⟨hbook.move_quiet rfl hi hp, huse.move ?_ hconsistent ?_⟩
      · intro cache hc
        exact huse.shared i cache (hcache ▸ hc)
      · intro outcome ho
        exact absurd ho (hmoves.ne_refused outcome)

/-! ### Runs -/

/-- **The invariant holds in every state of every run.** -/
theorem inv_of_run (h : Run config tokens calls {} trace s) :
    Inv config tokens calls trace s := by
  induction h with
  | nil => exact inv_start config tokens calls
  | snoc _ hstep ih => exact ih.step hstep

theorem Run.trans {start : State ι} {trace' : List (Label ι)}
    (h : Run config tokens calls start trace s) (h' : Run config tokens calls s trace' s') :
    Run config tokens calls start (trace' ++ trace) s' := by
  induction h' with
  | nil => exact h
  | snoc _ hstep ih => exact .snoc ih hstep

theorem Step.cell {cache : Cache} (hs : Step config tokens calls s label s')
    (h : Book trace s) (hcell : s.cell = some cache) : s'.cell = some cache := by
  cases hs with
  | @fill i cache' hcounted =>
      have hempty : s.cell = none := h.empty i (by rw [hcounted]; trivial)
      rw [hempty] at hcell
      simp at hcell
  | _ => exact hcell

theorem Run.cell {cache : Cache} {trace' : List (Label ι)}
    (h : Run config tokens calls {} trace s) (hcell : s.cell = some cache)
    (h' : Run config tokens calls s trace' s') : s'.cell = some cache := by
  induction h' with
  | nil => exact hcell
  | snoc hrun hstep ih => exact hstep.cell (inv_of_run (h.trans hrun)).book ih

end Steps

/-! ### What a call returns -/

/-- The bundles never answer with the error of a build. -/
theorem answer_error?_ne_build (op : Operation Request) (tokens : TokenSource Request)
    (cache : Cache) (e : BuildError) : (op.answer tokens cache).error? ≠ some (.build e) := by
  have hpage : ∀ request name view,
      (cache.page tokens request name view).1 ≠ .error (.build e) := by
    intro request name view
    unfold Cache.page
    split
    · simp
    · rename_i bundle _
      cases h : bundle.execute (.ofJson (view.withToken (tokens.issue request)).toJson) with
      | ok output => simp [h]
      | error cause => simp [h]
  cases op with
  | warm => simp [Operation.answer, Outcome.error?]
  | bundleNames => simp [Operation.answer, Outcome.error?]
  | render request name view sink =>
      specialize hpage request name view
      simp only [Operation.answer]
      split
      · rename_i cause view' hanswer
        rw [hanswer] at hpage
        simpa [Outcome.error?] using hpage
      · rename_i output view' _
        cases h : (sink.deliver output.toUTF8.toList).1 with
        | ok _ => simp [Outcome.error?]
        | error fault => simp [Outcome.error?]
  | renderText request name view =>
      specialize hpage request name view
      simp only [Operation.answer]
      cases h : (cache.page tokens request name view).1 with
      | ok output => simp [Outcome.error?]
      | error cause =>
          rw [h] at hpage
          simpa [Outcome.error?] using hpage

theorem refusal_error? (op : Operation Request) (e : RenderError) :
    (op.refusal e).error? = some e := by
  cases op <;> rfl

/-- A renderer that keeps bundles and is used by one call answers with them. -/
theorem perform_alone {config : Config} (on : config.cacheEnabled = true)
    (tokens : TokenSource Request) (cache : Cache) (builds : Nat) (files : FileTree)
    (order : TemplateOrder) (op : Operation Request) :
    (op.perform { config, tokens, cached := some cache, builds } files order).outcome =
      op.answer tokens cache := by
  have hseen := op.perform_seen { config, tokens, cached := some cache, builds } files order
  rw [Renderer.bundles_of_kept files order on rfl] at hseen
  exact congrArg Prod.fst hseen

/-- What the calls of a run share: one set of bundles, and nothing else. -/
structure Published (config : Config) (tokens : TokenSource Request)
    (calls : ι → Operation Request) (trace : List (Label ι)) (s : State ι) : Prop where
  /-- At most one build has ever succeeded. -/
  once : trace.countP Label.isSuccess ≤ 1
  builds_le : s.builds ≤ 1
  builds_of_filled : s.cell ≠ none → s.builds = 1
  /-- The filled cell stays as it is in every continuation of the run. -/
  permanent : ∀ cache, s.cell = some cache → ∀ trace' s',
    Run config tokens calls s trace' s' → s'.cell = some cache
  /-- Every call that has got past resolving uses the bundles in the cell. -/
  shared : ∀ i cache, (s.phase i).cache? = some cache → s.cell = some cache
  /-- Whatever a call has found, issued and executed so far is what these bundles answer. -/
  consistent : ∀ i, (s.phase i).Consistent tokens (calls i)
  /-- A call returns the error of a build only from one that it has run itself. -/
  own_build : ∀ i got outcome e, s.phase i = .done got outcome →
    outcome.error? = some (.build e) →
    ∃ files order, Label.fail i files order ∈ trace ∧
      (buildSite config files order).result = .error e ∧
      outcome = (calls i).refusal (.build e)
  /-- Any other call returns what it would have returned alone, with the bundles in the cell
  and whatever the files are: its result, its view and its sink. -/
  alone : ∀ i got outcome, s.phase i = .done got outcome →
    (∀ e, outcome.error? ≠ some (.build e)) →
    ∃ cache, got = some cache ∧ s.cell = some cache ∧ ∀ files order,
      outcome = ((calls i).perform
        { config, tokens, cached := s.cell, builds := s.builds } files order).outcome

/--
**Concurrent first use publishes one set of bundles.**

In every state that calls of a renderer which keeps its bundles can reach, in whichever order
their steps come and whatever files each build attempt reads, one build at most has succeeded
and been counted, the cell never loses what it got, and every call has used these bundles as
if it had been alone, unless a build of its own has failed.
-/
theorem concurrent_first_use {config : Config} {tokens : TokenSource Request}
    {calls : ι → Operation Request} {trace : List (Label ι)} {s : State ι}
    (on : config.cacheEnabled = true) (h : Run config tokens calls {} trace s) :
    Published config tokens calls trace s := by
  obtain ⟨hbook, huse⟩ := inv_of_run h
  have hbuilds : s.builds ≤ 1 := by
    cases hcell : s.cell with
    | some cache => exact Nat.le_of_eq (hbook.filled cache hcell)
    | none =>
        by_cases hidle : ∀ i, ¬(s.phase i).Building
        · rw [hbook.untouched hcell hidle]
          omega
        · simp only [not_forall, not_not] at hidle
          obtain ⟨i, hi⟩ := hidle
          cases hphase : s.phase i with
          | building => rw [hbook.fresh i hphase]; omega
          | counted cache => exact Nat.le_of_eq (hbook.counted i cache hphase)
          | _ => rw [hphase] at hi; exact hi.elim
  refine ⟨?_, hbuilds, ?_, ?_, huse.shared, huse.consistent, ?_, ?_⟩
  · rw [hbook.successes]
    exact hbuilds
  · intro hcell
    obtain ⟨cache, hcache⟩ := Option.ne_none_iff_exists'.mp hcell
    exact hbook.filled cache hcache
  · intro cache hcell trace' s' h'
    exact h.cell hcell h'
  · intro i got outcome e hdone herror
    cases got with
    | some cache =>
        have hanswer := huse.consistent i
        rw [hdone] at hanswer
        rw [show outcome = (calls i).answer tokens cache from hanswer] at herror
        exact absurd herror (answer_error?_ne_build _ _ _ _)
    | none =>
        obtain ⟨files, order, e', hmem, hbuild, rfl⟩ := huse.refused i outcome hdone
        rw [refusal_error?] at herror
        simp only [Option.some.injEq, RenderError.build.injEq] at herror
        subst herror
        exact ⟨files, order, hmem, hbuild, rfl⟩
  · intro i got outcome hdone hno
    cases got with
    | none =>
        obtain ⟨files, order, e, -, -, rfl⟩ := huse.refused i outcome hdone
        exact absurd (refusal_error? _ _) (hno e)
    | some cache =>
        have hcell : s.cell = some cache := huse.shared i cache (by rw [hdone]; rfl)
        have hanswer := huse.consistent i
        rw [hdone] at hanswer
        refine ⟨cache, rfl, hcell, fun files order => ?_⟩
        rw [hcell, perform_alone on]
        exact hanswer

/-- Three calls: the build of the first one fails for want of the directories, the second one
builds once they are there, and the third one renders a page of what the second has built. -/
theorem first_use_after_failure :
    let config : Config := { cacheEnabled := true }
    let tokens : TokenSource Unit := .fixed "token"
    let calls : Fin 3 → Operation Unit := fun i =>
      if i = 1 then .warm else .renderText () "home.html" {}
    let site : FileTree :=
      .dir [("templates", .dir [("pages", .dir [("home.html", .file "<p>Hi</p>".toUTF8)])])]
    let trace : List (Label (Fin 3)) :=
      [.advance 2, .advance 2, .advance 2, .advance 2, .reuse 2, .fill 1, .succeed 1 site .byName,
        .start 1, .fail 0 (.dir []) .byName, .start 0]
    ∃ s cache, Run config tokens calls {} trace s ∧ s.cell = some cache ∧
      s.phase 2 = .done (some cache)
        (.text (.ok "<p>Hi</p>") (({} : View).withToken "token")) ∧
      Published config tokens calls trace s := by
  intro config tokens calls site trace
  obtain ⟨e, hmissing⟩ : ∃ e, (buildSite config (.dir []) .byName).result = .error e := by
    have hnone : (buildSite config (.dir []) .byName).result.toOption.isNone = true := by
      decide +kernel
    cases h : (buildSite config (.dir []) .byName).result with
    | error e => exact ⟨e, rfl⟩
    | ok cache =>
        rw [h] at hnone
        simp [Except.toOption] at hnone
  obtain ⟨cache, hbuild, bundle, hget, hexecute⟩ :
      ∃ cache, (buildSite config site .byName).result = .ok cache ∧
        ∃ bundle, cache.get? "home.html" = some bundle ∧
          bundle.execute (.ofJson (({} : View).withToken "token").toJson) = .ok "<p>Hi</p>" := by
    have hpage : (((buildSite config site .byName).result.toOption.bind (·.get? "home.html")).bind
        fun bundle => (bundle.execute
          (.ofJson (({} : View).withToken "token").toJson)).toOption) = some "<p>Hi</p>" := by
      decide +kernel
    cases hbuild : (buildSite config site .byName).result with
    | error e => simp [hbuild, Except.toOption] at hpage
    | ok cache =>
        rw [hbuild] at hpage
        obtain ⟨bundle, hget, hpage⟩ := Option.bind_eq_some_iff.mp hpage
        refine ⟨cache, rfl, bundle, hget, ?_⟩
        cases hexecute : bundle.execute (.ofJson (({} : View).withToken "token").toJson) with
        | error e => simp [hexecute, Except.toOption] at hpage
        | ok output => simpa [hexecute, Except.toOption] using hpage
  have hidle : ∀ (j : Fin 3) (outcome : Outcome),
      ¬(((({} : State (Fin 3)).move 0 .building).move 0 (.done none outcome)).phase j).Building := by
    intro j outcome
    by_cases hj : j = 0
    · rw [hj, State.move_phase_self]
      exact id
    · rw [State.move_phase_other hj, State.move_phase_other hj]
      exact id
  have hstart : Run config tokens calls {} [] {} := .nil
  have hfailed := Run.snoc (.snoc hstart (.start (i := 0) rfl rfl fun _ => id))
    (.fail (i := 0) rfl hmissing)
  have hbuilt := Run.snoc (.snoc hfailed (.start (i := 1) rfl rfl fun j => hidle j _))
    (.succeed (i := 1) rfl hbuild)
  have hfound := Run.snoc (.snoc (.snoc hbuilt (.fill (i := 1) rfl)) (.reuse (i := 2) rfl rfl))
    (.advance (i := 2) (.find rfl hget))
  have hrendered := Run.snoc (.snoc (.snoc hfound (.advance (i := 2) (.ask rfl)))
    (.advance (i := 2) (.execute hexecute))) (.advance (i := 2) .hand)
  exact ⟨_, cache, hrendered, rfl, rfl, concurrent_first_use rfl hrendered⟩

end FirstUse

end Folio
