/-
Which calls get a token, and what becomes of the old one.

The token source is asked by those calls, and only by those, that get hold of bundles and find
their page among them; whether the page can then be executed and written makes no difference.
The answer replaces the token in the view of the caller.  Since this happens before the page is
executed, the token that the view held before cannot have any effect: two runs in which the
callers' views differ in nothing but their tokens cannot be told apart by results and sinks, and
where a token was issued not by the views either (`asked_once_and_unseen`).

Everything rests on `Operation.perform_seen`: what can be seen of a call is a function of the
bundles, and the bundles depend neither on the view nor on the token source.
-/
import Folio.Proofs.Run

namespace Folio

variable {Request : Type}

/-! ### Calls -/

/-- The request and the page of a call that renders one. -/
def Operation.target? : Operation Request → Option (Request × String)
  | .warm | .bundleNames => none
  | .render request name _ _ | .renderText request name _ => some (request, name)

/-- The view that a call is given. -/
def Operation.view? : Operation Request → Option View
  | .warm | .bundleNames => none
  | .render _ _ view _ | .renderText _ _ view => some view

/-- The view that a call leaves behind. -/
def Outcome.view? : Outcome → Option View
  | .counted _ | .named _ => none
  | .rendered _ view _ | .text _ view => some view

/-- A call in the middle of a run: what is called, the renderer and the files it meets, and the
order of templates in the build that it may run. -/
structure Call (Request : Type) where
  op : Operation Request
  renderer : Renderer Request
  files : FileTree
  order : TemplateOrder

namespace Call

/-- What the call leads to. -/
def performed (c : Call Request) : Performed Request := c.op.perform c.renderer c.files c.order

/-- The call renders a page for the request, and the bundles it gets hold of contain the page. -/
def Finds (c : Call Request) (request : Request) : Prop :=
  ∃ name cache, c.op.target? = some (request, name) ∧
    (c.renderer.bundles c.files c.order).result = .ok cache ∧ cache.contains name = true

end Call

/-- The calls of a run, in order. -/
def Renderer.calls (r : Renderer Request) (files : FileTree) :
    List (Action Request) → List (Call Request)
  | [] => []
  | .edit change :: rest => r.calls (change files) rest
  | .retoken tokens :: rest => { r with tokens }.calls files rest
  | .operation op order :: rest =>
    ⟨op, r, files, order⟩ :: (op.perform r files order).renderer.calls files rest

theorem run_eq_calls (actions : List (Action Request)) :
    ∀ (r : Renderer Request) (files : FileTree),
      r.run files actions = (r.calls files actions).map Call.performed := by
  induction actions with
  | nil => intro r files; rfl
  | cons action rest ih =>
      intro r files
      cases action with
      | edit change => exact ih r (change files)
      | retoken tokens => exact ih { r with tokens } files
      | operation op order => exact congrArg (op.perform r files order :: ·) (ih _ files)

/-- What holds before a run and is kept by each of its actions holds at every one of its calls.  It
may speak of the calls that came before. -/
theorem calls_invariant {Inv : List (Call Request) → Renderer Request → FileTree → Prop}
    {actions : List (Action Request)}
    (edit : ∀ change, .edit change ∈ actions → ∀ past r files,
      Inv past r files → Inv past r (change files))
    (retoken : ∀ tokens past r files, Inv past r files → Inv past { r with tokens } files)
    (operation : ∀ op order past r files, Inv past r files →
      Inv (past ++ [⟨op, r, files, order⟩]) (op.perform r files order).renderer files) :
    ∀ {past : List (Call Request)} {r : Renderer Request} {files : FileTree}, Inv past r files →
      ∀ before call after, r.calls files actions = before ++ call :: after →
        Inv (past ++ before) call.renderer call.files := by
  induction actions with
  | nil =>
      intro past r files _ before call after hsplit
      cases before <;> cases hsplit
  | cons action rest ih =>
      have ih := @ih fun change hchange => edit change (List.mem_cons_of_mem _ hchange)
      intro past r files hinv before call after hsplit
      cases action with
      | edit change =>
          exact ih (edit change List.mem_cons_self _ _ _ hinv) before call after hsplit
      | retoken tokens => exact ih (retoken tokens _ _ _ hinv) before call after hsplit
      | operation op order =>
          cases before with
          | nil =>
              cases hsplit
              rw [List.append_nil]
              exact hinv
          | cons first before =>
              obtain ⟨hfirst, hrest⟩ := List.cons.inj hsplit
              have hlater := ih (operation op order _ _ _ hinv) before call after hrest
              rw [hfirst, List.append_assoc] at hlater
              exact hlater

/-! ### Views that differ in the token -/

/-- Two views that differ at most in the token. -/
structure View.SameButToken (v w : View) : Prop where
  data : v.data = w.data
  sessionData : v.sessionData = w.sessionData
  feedbackData : v.feedbackData = w.feedbackData
  formData : v.formData = w.formData
  page : v.page = w.page

namespace View.SameButToken

variable {v w : View}

theorem refl (v : View) : v.SameButToken v := ⟨rfl, rfl, rfl, rfl, rfl⟩

theorem of_withToken (v : View) (token : String) : (v.withToken token).SameButToken v :=
  ⟨rfl, rfl, rfl, rfl, rfl⟩

theorem withToken (h : v.SameButToken w) (token : String) :
    w.withToken token = v.withToken token := by
  rw [View.withToken, View.withToken, h.data, h.sessionData, h.feedbackData, h.formData, h.page]

end View.SameButToken

/-! ### Who is asked for a token -/

namespace Call

variable (c : Call Request)

/-- What is asked for in a call, and what happens to its view. -/
structure Accounted (c : Call Request) : Prop where
  /-- A call that finds its page asks once, for its own request. -/
  once : ∀ request, c.Finds request → c.performed.asked = [request]
  /-- No other call asks. -/
  never : (∀ request, ¬ c.Finds request) → c.performed.asked = []
  /-- A call that is given a view leaves one behind. -/
  view : c.op.view?.isSome = c.performed.outcome.view?.isSome
  /-- The token that is issued is put into the view, and nothing else changes. -/
  issued : ∀ request before after, c.Finds request → c.op.view? = some before →
    c.performed.outcome.view? = some after →
    after.csrfToken = c.renderer.tokens.issue request ∧ after.SameButToken before
  /-- Without a token the view stays as it is. -/
  kept : ∀ before after, (∀ request, ¬ c.Finds request) → c.op.view? = some before →
    c.performed.outcome.view? = some after → after = before

variable {c}

theorem asked_eq : c.performed.asked =
    (c.op.seen c.renderer.tokens (c.renderer.bundles c.files c.order).result).2 :=
  congrArg Prod.snd (c.op.perform_seen c.renderer c.files c.order)

theorem outcome_eq : c.performed.outcome =
    (c.op.seen c.renderer.tokens (c.renderer.bundles c.files c.order).result).1 :=
  congrArg Prod.fst (c.op.perform_seen c.renderer c.files c.order)

end Call

namespace Operation

variable {op : Operation Request} {tokens : TokenSource Request} {cache : Cache}
  {request : Request} {name : String} {before after : View}

theorem asks_of_contains (hpage : op.target? = some (request, name))
    (h : cache.contains name = true) : op.asks cache = [request] := by
  cases op <;> cases hpage <;> exact if_pos h

theorem asks_of_not_contains
    (h : ∀ request name, op.target? = some (request, name) → cache.contains name = false) :
    op.asks cache = [] := by
  cases op with
  | warm => rfl
  | bundleNames => rfl
  | render request name view sink => exact if_neg (Bool.eq_false_iff.mp (h request name rfl))
  | renderText request name view => exact if_neg (Bool.eq_false_iff.mp (h request name rfl))

theorem refusal_view? (e : RenderError) : (op.refusal e).view? = op.view? := by
  cases op <;> rfl

theorem answer_view? : (op.answer tokens cache).view? =
    op.view?.map fun view =>
      match op.asks cache with
      | [] => view
      | request :: _ => view.withToken (tokens.issue request) := by
  have hview : ∀ request name view, (cache.page tokens request name view).2 =
      match (if (cache.get? name).isSome then [request] else [] : List Request) with
      | [] => view
      | request :: _ => view.withToken (tokens.issue request) := by
    intro request name view
    unfold Cache.page
    cases cache.get? name <;> rfl
  cases op with
  | warm => rfl
  | bundleNames => rfl
  | render request name view sink =>
      simp only [answer, asks, Operation.view?, Option.map_some, ← hview]
      split <;> simp_all [Outcome.view?]
  | renderText request name view =>
      simp only [answer, asks, Operation.view?, Option.map_some, ← hview, Outcome.view?]

end Operation

/-- **A call asks for a token exactly if it finds its page, and only the token changes.** -/
theorem Call.accounted (c : Call Request) : c.Accounted := by
  have hasked := c.asked_eq
  have houtcome := c.outcome_eq
  cases hbundles : (c.renderer.bundles c.files c.order).result with
  | error e =>
      rw [hbundles] at hasked houtcome
      have hview : c.performed.outcome.view? = c.op.view? := by
        rw [houtcome]
        exact c.op.refusal_view? e
      have hnot : ∀ request, ¬ c.Finds request := by
        rintro request ⟨name, cache, -, hcache, -⟩
        rw [hbundles] at hcache
        cases hcache
      refine ⟨fun request h => absurd h (hnot request), fun _ => hasked, by rw [hview],
        fun request _ _ h => absurd h (hnot request), fun before after _ hbefore hafter => ?_⟩
      rw [hview, hbefore] at hafter
      exact (Option.some.inj hafter).symm
  | ok cache =>
      rw [hbundles] at hasked houtcome
      have hview : c.performed.outcome.view? = c.op.view?.map fun view =>
          match c.op.asks cache with
          | [] => view
          | request :: _ => view.withToken (c.renderer.tokens.issue request) := by
        rw [houtcome]
        exact Operation.answer_view?
      have hfinds : ∀ request, c.Finds request → c.op.asks cache = [request] := by
        rintro request ⟨name, cache', hpage, hcache, hcontains⟩
        cases hbundles.symm.trans hcache
        exact Operation.asks_of_contains hpage hcontains
      have hmisses : (∀ request, ¬ c.Finds request) → c.op.asks cache = [] := by
        intro hnot
        refine Operation.asks_of_not_contains fun request name hpage => ?_
        exact Bool.eq_false_iff.mpr fun h => hnot request ⟨name, cache, hpage, hbundles, h⟩
      refine ⟨fun request h => hasked.trans (hfinds request h), fun h => hasked.trans (hmisses h),
        by rw [hview, Option.isSome_map], fun request before after h hbefore hafter => ?_,
        fun before after h hbefore hafter => ?_⟩
      · rw [hview, hbefore, hfinds request h] at hafter
        rw [← Option.some.inj hafter]
        exact ⟨rfl, .of_withToken before _⟩
      · rw [hview, hbefore, hmisses h] at hafter
        exact (Option.some.inj hafter).symm

/-! ### The token before plays no part -/

/-- Two calls that differ at most in the token of the view. -/
inductive Operation.Alike : Operation Request → Operation Request → Prop
  | warm : Alike .warm .warm
  | bundleNames : Alike .bundleNames .bundleNames
  | render {request : Request} {name : String} {v w : View} {sink : Sink}
      (views : v.SameButToken w) : Alike (.render request name v sink) (.render request name w sink)
  | renderText {request : Request} {name : String} {v w : View} (views : v.SameButToken w) :
      Alike (.renderText request name v) (.renderText request name w)

/-- Two outcomes with the same result and the same sink, whose views differ at most in the token,
and not at all if a token was issued. -/
inductive Outcome.Alike (issued : Prop) : Outcome → Outcome → Prop
  | counted {result : Except RenderError Nat} : Alike issued (.counted result) (.counted result)
  | named {result : Except RenderError (List String)} : Alike issued (.named result) (.named result)
  | rendered {result : Except RenderError Unit} {v w : View} {sink : Sink}
      (views : v.SameButToken w) (same : issued → v = w) :
      Alike issued (.rendered result v sink) (.rendered result w sink)
  | text {result : Except RenderError String} {v w : View} (views : v.SameButToken w)
      (same : issued → v = w) : Alike issued (.text result v) (.text result w)

/-- Two performed calls that can be told apart by nothing but the token of a view for which none
was issued. -/
structure Performed.Alike (p q : Performed Request) : Prop where
  asked : p.asked = q.asked
  outcome : Outcome.Alike (p.asked ≠ []) p.outcome q.outcome

/-- Two runs that differ at most in the tokens of the views that callers hand over, and whose token
sources answer the requests of the calls alike.  The order of templates in a build is drawn without
knowledge of either, and is the same for corresponding calls. -/
inductive AlikeRuns : TokenSource Request → TokenSource Request → List (Action Request) →
    List (Action Request) → Prop
  | nil {t u : TokenSource Request} : AlikeRuns t u [] []
  | edit {t u : TokenSource Request} {change : FileTree → FileTree}
      {as bs : List (Action Request)} (rest : AlikeRuns t u as bs) :
      AlikeRuns t u (.edit change :: as) (.edit change :: bs)
  | retoken {t u t' u' : TokenSource Request} {as bs : List (Action Request)}
      (rest : AlikeRuns t' u' as bs) : AlikeRuns t u (.retoken t' :: as) (.retoken u' :: bs)
  | operation {t u : TokenSource Request} {a b : Operation Request} {order : TemplateOrder}
      {as bs : List (Action Request)} (calls : a.Alike b)
      (answers : ∀ request name, a.target? = some (request, name) →
        t.issue request = u.issue request)
      (rest : AlikeRuns t u as bs) :
      AlikeRuns t u (.operation a order :: as) (.operation b order :: bs)

namespace Operation.Alike

variable {a b : Operation Request} {t u : TokenSource Request} {cache : Cache}

theorem asks_eq (h : a.Alike b) : a.asks cache = b.asks cache := by
  cases h <;> rfl

theorem refusal (h : a.Alike b) (e : RenderError) :
    Outcome.Alike (([] : List Request) ≠ []) (a.refusal e) (b.refusal e) := by
  cases h with
  | warm => exact .counted
  | bundleNames => exact .named
  | render views => exact .rendered views (absurd rfl)
  | renderText views => exact .text views (absurd rfl)

theorem page (cache : Cache) (request : Request) (name : String) {v w : View}
    (views : v.SameButToken w) (answers : t.issue request = u.issue request) :
    (cache.page t request name v).1 = (cache.page u request name w).1 ∧
      (cache.page t request name v).2.SameButToken (cache.page u request name w).2 ∧
      ((cache.get? name).isSome = true →
        (cache.page t request name v).2 = (cache.page u request name w).2) := by
  unfold Cache.page
  cases cache.get? name with
  | none => exact ⟨rfl, views, by simp⟩
  | some bundle =>
      dsimp only
      rw [answers, views.withToken]
      exact ⟨rfl, .refl _, fun _ => rfl⟩

theorem answer (h : a.Alike b)
    (answers : ∀ request name, a.target? = some (request, name) →
      t.issue request = u.issue request) :
    Outcome.Alike (a.asks cache ≠ []) (a.answer t cache) (b.answer u cache) := by
  have hfound : ∀ {request : Request} {name : String},
      (if (cache.get? name).isSome then [request] else []) ≠ [] →
        (cache.get? name).isSome = true := by
    intro request name hne
    exact Classical.byContradiction fun hnot => hne (if_neg hnot)
  cases h with
  | warm => exact .counted
  | bundleNames => exact .named
  | @render request name v w sink views =>
      obtain ⟨hresult, hviews, hsame⟩ := page cache request name views
        (answers request name rfl)
      simp only [Operation.answer, Operation.asks]
      generalize cache.page t request name v = p at hresult hviews hsame
      generalize cache.page u request name w = q at hresult hviews hsame
      obtain ⟨result, v'⟩ := p
      obtain ⟨result', w'⟩ := q
      cases hresult
      cases result with
      | error e => exact .rendered hviews fun hne => hsame (hfound hne)
      | ok output => exact .rendered hviews fun hne => hsame (hfound hne)
  | @renderText request name v w views =>
      obtain ⟨hresult, hviews, hsame⟩ := page cache request name views
        (answers request name rfl)
      simp only [Operation.answer, Operation.asks, hresult]
      exact .text hviews fun hne => hsame (hfound hne)

end Operation.Alike

namespace Renderer

theorem bundles_retoken (r : Renderer Request) (tokens : TokenSource Request) (files : FileTree)
    (order : TemplateOrder) :
    (({ r with tokens } : Renderer Request).bundles files order).result =
        (r.bundles files order).result ∧
      (({ r with tokens } : Renderer Request).bundles files order).renderer =
        { (r.bundles files order).renderer with tokens } := by
  unfold bundles build
  dsimp only
  by_cases hon : r.config.cacheEnabled = true
  · rw [if_pos hon, if_pos hon]
    cases hheld : r.cached with
    | some cache => exact ⟨rfl, by simp [hheld]⟩
    | none =>
        cases hbuilt : (buildSite r.config files order).result with
        | ok cache => exact ⟨rfl, rfl⟩
        | error e => exact ⟨rfl, by simp [hheld]⟩
  · rw [if_neg hon, if_neg hon]
    cases (buildSite r.config files order).result with
    | ok cache => exact ⟨rfl, rfl⟩
    | error e => exact ⟨rfl, rfl⟩

end Renderer

/-- Alike calls on renderers that differ in their token sources lead to alike ends. -/
theorem Operation.Alike.perform {a b : Operation Request} (h : a.Alike b) (r : Renderer Request)
    (tokens : TokenSource Request) (files : FileTree) (order : TemplateOrder)
    (answers : ∀ request name, a.target? = some (request, name) →
      r.tokens.issue request = tokens.issue request) :
    (a.perform r files order).Alike (b.perform { r with tokens } files order) := by
  have hseen := a.perform_seen r files order
  have hseen' := b.perform_seen { r with tokens } files order
  rw [(r.bundles_retoken tokens files order).1] at hseen'
  cases hbundles : (r.bundles files order).result with
  | error e =>
      rw [hbundles] at hseen hseen'
      have hasked : (a.perform r files order).asked = [] := congrArg Prod.snd hseen
      refine ⟨hasked.trans (congrArg Prod.snd hseen').symm, ?_⟩
      rw [hasked, show (a.perform r files order).outcome = _ from congrArg Prod.fst hseen,
        show (b.perform { r with tokens } files order).outcome = _ from congrArg Prod.fst hseen']
      exact h.refusal e
  | ok cache =>
      rw [hbundles] at hseen hseen'
      have hasked : (a.perform r files order).asked = a.asks cache := congrArg Prod.snd hseen
      have hasked' : (b.perform { r with tokens } files order).asked = b.asks cache :=
        congrArg Prod.snd hseen'
      refine ⟨by rw [hasked, hasked', h.asks_eq], ?_⟩
      rw [hasked, show (a.perform r files order).outcome = _ from congrArg Prod.fst hseen,
        show (b.perform { r with tokens } files order).outcome = _ from congrArg Prod.fst hseen']
      exact h.answer answers

/-- **Alike runs lead to alike ends, call by call.** -/
theorem run_alike {t u : TokenSource Request} {as bs : List (Action Request)}
    (h : AlikeRuns t u as bs) : ∀ (r : Renderer Request) (files : FileTree), r.tokens = t →
    (r.run files as).length = (({ r with tokens := u } : Renderer Request).run files bs).length ∧
      ∀ pair ∈ (r.run files as).zip (({ r with tokens := u } : Renderer Request).run files bs),
        pair.1.Alike pair.2 := by
  induction h with
  | nil => intro r files _; exact ⟨rfl, by simp [Renderer.run]⟩
  | edit _ ih => intro r files ht; exact ih r _ ht
  | @retoken t u t' u' as bs _ ih => intro r files _; exact ih { r with tokens := t' } files rfl
  | @operation t u a b order as bs calls answers _ ih =>
      intro r files ht
      subst ht
      have hnext : (b.perform { r with tokens := u } files order).renderer =
          { (a.perform r files order).renderer with tokens := u } := by
        rw [a.perform_renderer, b.perform_renderer, (r.bundles_retoken u files order).2]
      have htokens : (a.perform r files order).renderer.tokens = r.tokens := by
        rw [a.perform_renderer]
        exact (r.bundles_frame files order).2.2
      obtain ⟨hlength, hpairs⟩ := ih _ files htokens
      rw [← hnext] at hlength hpairs
      simp only [Renderer.run, List.length_cons, List.zip_cons_cons, List.mem_cons]
      refine ⟨congrArg (· + 1) hlength, ?_⟩
      rintro pair (rfl | hpair)
      · exact calls.perform r u files order answers
      · exact hpairs pair hpair

/--
**A token is issued once to each call that finds its page, and the one before has no effect.**

In a run every call is accounted for: the token source is asked once and for the call's own
request if the call gets hold of bundles with its page among them, and not at all otherwise; the
view changes in its token alone, to the one that was issued.  And a second run whose callers hand
over views that differ in nothing but the token, and whose token source answers the requests of
the calls alike, has the same results and the same sinks call by call, and the same views wherever
a token was issued.
-/
theorem asked_once_and_unseen (r : Renderer Request) (files : FileTree)
    (actions : List (Action Request)) :
    r.run files actions = (r.calls files actions).map Call.performed ∧
    (∀ call ∈ r.calls files actions, call.Accounted) ∧
    (∀ tokens actions', AlikeRuns r.tokens tokens actions actions' →
      let run' := ({ r with tokens } : Renderer Request).run files actions'
      (r.run files actions).length = run'.length ∧
        ∀ pair ∈ (r.run files actions).zip run', pair.1.Alike pair.2) :=
  ⟨run_eq_calls actions r files, fun call _ => call.accounted,
    fun _ _ h => run_alike h r files rfl⟩

end Folio
