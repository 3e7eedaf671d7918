/-
What a renderer reports.

An operation reports what the build says that it runs, if it runs one, and then at most one event of
its own.  A build says how far it got, and at its end, if it succeeds, that the cache is built;
whether it failed is reported behind that (`buildSite_log_ok`, `buildSite_log_error`).  So a failed
operation has one event that tells of a failure, its last one, and a successful operation has none;
and there are as many reports of a built cache as the renderer has counted
(`failures_reported_once`).

The case analysis is that of `Resolved`, made once in `Call.log_eq`.  What is shown of runs follows
from it by `calls_invariant`, with the books that `BuildCount` keeps.
-/
import Folio.Proofs.BuildCount

namespace Folio

variable {Request : Type}

/-! ### Kinds of events -/

/-- The levels and messages of the events that tell of a failed operation. -/
def failureKinds : List (Level × String) :=
  [(.error, "Failed to build bundle cache"), (.warn, "Bundle not found"),
    (.error, "Failed to execute bundle"), (.error, "Failed to write rendered output")]

/-- The messages of the events of a build. -/
def buildMessages : List String :=
  ["Function registered", "Bundle compiled", "Duplicate page name, later file wins",
    "Bundle cache built", "Failed to build bundle cache"]

namespace Event

/-- Whether an event tells of a failed operation. -/
def isFailure (e : Event) : Bool := failureKinds.contains (e.level, e.message)

/-- Whether an event tells that a build has succeeded. -/
def isCacheBuilt (e : Event) : Bool := (e.level, e.message) = (.info, "Bundle cache built")

/-- Whether an event belongs to a build. -/
def isOfBuild (e : Event) : Bool := buildMessages.contains e.message

/-- Whether an event tells how far a build got. -/
def isProgress : Event → Bool
  | .functionRegistered _ | .bundleCompiled .. | .pageReplaced .. => true
  | _ => false

theorem isProgress_kinds {e : Event} (h : e.isProgress = true) :
    e.isFailure = false ∧ e.isCacheBuilt = false := by
  cases e with
  | functionRegistered name => exact ⟨rfl, rfl⟩
  | bundleCompiled bundle page templates => exact ⟨rfl, rfl⟩
  | pageReplaced bundle replaced winner => exact ⟨rfl, rfl⟩
  | cacheBuilt bundles fragments => cases h
  | buildFailed => cases h
  | bundleNotFound name => cases h
  | executionFailed name => cases h
  | writeFailed name => cases h

end Event

/-- The level and the message with which an error is reported. -/
def RenderError.announcement : RenderError → Level × String
  | .build _ => (.error, "Failed to build bundle cache")
  | .notFound _ => (.warn, "Bundle not found")
  | .execution .. => (.error, "Failed to execute bundle")
  | .io _ => (.error, "Failed to write rendered output")

/-- The event is the report of an operation that failed with this error; of a page it tells the name
that was asked for. -/
inductive Event.Reports : Event → Operation Request → RenderError → Prop
  | build {op : Operation Request} {e : BuildError} : Reports .buildFailed op (.build e)
  | notFound {op : Operation Request} {request : Request} {name : String}
      (page : op.target? = some (request, name)) :
      Reports (.bundleNotFound name) op (.notFound name)
  | execution {op : Operation Request} {request : Request} {name : String} {cause : Template.Error}
      (page : op.target? = some (request, name)) :
      Reports (.executionFailed name) op (.execution name cause)
  | io {op : Operation Request} {request : Request} {name : String} {cause : IoError}
      (page : op.target? = some (request, name)) : Reports (.writeFailed name) op (.io cause)

namespace Event.Reports

variable {event : Event} {op : Operation Request} {e : RenderError}

theorem announced (h : event.Reports op e) : (event.level, event.message) = e.announcement := by
  cases h <;> rfl

theorem kinds (h : event.Reports op e) : event.isFailure = true ∧ event.isCacheBuilt = false := by
  cases h <;> exact ⟨rfl, rfl⟩

end Event.Reports

/-! ### The events of a build -/

namespace Build

variable {config : Config} {files : FileTree} {order : TemplateOrder} {fragments : List Source}

theorem settleCollision_progress {policy : CollisionPolicy} {cache : Cache} {page : TemplateFile}
    {replaced : List Event} (h : settleCollision policy cache page = .ok replaced) :
    ∀ event ∈ replaced, event.isProgress = true := by
  unfold settleCollision at h
  cases hget : cache.get? page.name with
  | none =>
      rw [hget] at h
      cases h
      exact fun event h => absurd h List.not_mem_nil
  | some existing =>
      rw [hget] at h
      cases policy with
      | reject => cases h
      | overwrite =>
          cases h
          exact List.forall_mem_singleton.mpr rfl

theorem addPages_progress {pages : List TemplateFile} : ∀ {cache : Cache},
    ∀ event ∈ (addPages config files order fragments cache pages).log, event.isProgress = true := by
  induction pages with
  | nil => intro cache event h; cases h
  | cons page rest ih =>
      intro cache
      rw [addPages]
      cases compileBundle config files order fragments page with
      | error e => exact fun event h => absurd h List.not_mem_nil
      | ok bundle =>
          dsimp only
          cases hsettle : settleCollision config.collisions cache page with
          | error e => exact List.forall_mem_singleton.mpr rfl
          | ok replaced =>
              refine List.forall_mem_cons.mpr ⟨rfl, fun event hevent => ?_⟩
              rcases List.mem_append.mp hevent with hevent | hevent
              · exact settleCollision_progress hsettle event hevent
              · exact ih event hevent

theorem registered_progress : ∀ event ∈ config.functions.names.map Event.functionRegistered,
    event.isProgress = true := by
  intro event h
  obtain ⟨name, -, rfl⟩ := List.mem_map.mp h
  rfl

end Build

section BuildLog

variable {config : Config} {files : FileTree} {order : TemplateOrder}

/-- A build that succeeds tells how far it got, and then once that it is done. -/
theorem buildSite_log_ok {cache : Cache} (h : (buildSite config files order).result = .ok cache) :
    ∃ progress fragments,
      (buildSite config files order).log = progress ++ [.cacheBuilt cache.size fragments] ∧
      ∀ event ∈ progress, event.isProgress = true := by
  unfold buildSite at h ⊢
  split at h
  · cases h
  · rename_i pages fragments _
    unfold Build.ofSources at h ⊢
    dsimp only at h ⊢
    split at h
    · cases h
    · cases h
      refine ⟨_, fragments.length, rfl, fun event hevent => ?_⟩
      rcases List.mem_append.mp hevent with hevent | hevent
      · exact Build.registered_progress event hevent
      · exact Build.addPages_progress event hevent

theorem buildSite_log_error {e : BuildError}
    (h : (buildSite config files order).result = .error e) :
    ∀ event ∈ (buildSite config files order).log, event.isProgress = true := by
  unfold buildSite at h ⊢
  split at h
  · exact fun event h => absurd h List.not_mem_nil
  · unfold Build.ofSources at h ⊢
    dsimp only at h ⊢
    split at h
    · intro event hevent
      rcases List.mem_append.mp hevent with hevent | hevent
      · exact Build.registered_progress event hevent
      · exact Build.addPages_progress event hevent
    · cases h

end BuildLog

/-! ### The events of a call -/

/-- What an operation adds to the log when it has got hold of its bundles: nothing, or the report of
the error that it ended with. -/
inductive Operation.Adds (op : Operation Request) : Option RenderError → List Event → Prop
  | nothing : Adds op none []
  | report {e : RenderError} {event : Event} (reports : event.Reports op e) :
      Adds op (some e) [event]

section Calls

variable {r : Renderer Request} {files : FileTree} {order : TemplateOrder} {cache : Cache}

/-- Finding and executing a page adds the report of the error with which it ends.  The operation may
go on after that, so it is any one that asks for this page. -/
theorem Renderer.renderText_adds (h : (r.bundles files order).result = .ok cache)
    (op : Operation Request) {request : Request} {name : String} {view view' : View}
    (page : op.target? = some (request, name)) :
    ∃ own,
      (r.renderText files request name view order).1.log = (r.bundles files order).log ++ own ∧
      op.Adds
        (Outcome.text (r.renderText files request name view order).1.result view').error? own := by
  unfold renderText
  simp only [h]
  cases cache.get? name with
  | none => exact ⟨_, rfl, .report (.notFound page)⟩
  | some bundle =>
      dsimp only
      cases bundle.execute (.ofJson (view.withToken (r.tokens.issue request)).toJson) with
      | ok output => exact ⟨[], (List.append_nil _).symm, .nothing⟩
      | error cause => exact ⟨_, rfl, .report (.execution page)⟩

/-- Writing a page adds the report of a sink that does not take it. -/
theorem Renderer.render_adds (h : (r.bundles files order).result = .ok cache) {request : Request}
    {name : String} {view view' : View} {sink sink' : Sink} :
    ∃ own,
      (r.render files request name view sink order).1.log = (r.bundles files order).log ++ own ∧
      (Operation.render request name view sink).Adds
        (Outcome.rendered (r.render files request name view sink order).1.result view' sink').error?
        own := by
  obtain ⟨own, hlog, hadds⟩ :=
    @renderText_adds _ r files order cache h (.render request name view sink) request name view
      view rfl
  unfold render
  dsimp only
  generalize r.renderText files request name view order = p at hlog hadds
  obtain ⟨step, after⟩ := p
  dsimp only at hlog hadds ⊢
  cases hresult : step.result with
  | error e =>
      rw [hresult] at hadds
      exact ⟨own, hlog, hadds⟩
  | ok output =>
      -- With a text there was nothing to report, and what is left to fail is the writing.
      rw [hresult] at hadds
      cases hadds
      dsimp only
      cases hdeliver : sink.deliver output.toUTF8.toList with
      | mk written sink' =>
          cases written with
          | ok => exact ⟨[], hlog, .nothing⟩
          | error fault =>
              refine ⟨[.writeFailed name], ?_, .report (.io rfl)⟩
              dsimp only
              rw [hlog, List.append_nil]

/-- **An operation that has its bundles adds the report of the error that it ends with.** -/
theorem Operation.perform_adds (op : Operation Request)
    (h : (r.bundles files order).result = .ok cache) :
    ∃ own, (op.perform r files order).log = (r.bundles files order).log ++ own ∧
      op.Adds (op.perform r files order).outcome.error? own := by
  cases op with
  | warm =>
      refine ⟨[], (List.append_nil _).symm, ?_⟩
      simp only [perform, Performed.ofStep, Renderer.warm, h]
      exact .nothing
  | bundleNames =>
      refine ⟨[], (List.append_nil _).symm, ?_⟩
      simp only [perform, Performed.ofStep, Renderer.bundleNames, h]
      exact .nothing
  | render request name view sink => exact Renderer.render_adds h
  | renderText request name view =>
      exact Renderer.renderText_adds h (.renderText request name view) rfl

/-- An operation that does not get hold of its bundles reports what the build did. -/
theorem Operation.perform_log_of_error (op : Operation Request) {e : RenderError}
    (h : (r.bundles files order).result = .error e) :
    (op.perform r files order).log = (r.bundles files order).log := by
  cases op with
  | warm => rfl
  | bundleNames => rfl
  | render request name view sink =>
      simp only [perform, Performed.ofStep, Renderer.render, Renderer.renderText, h]
  | renderText request name view => simp only [perform, Performed.ofStep, Renderer.renderText, h]

end Calls

/-- What a call reports, and what it changes in the renderer: the three ways of getting hold of the
bundles, each with what the operation adds. -/
inductive Call.Logs (c : Call Request) : List Event → Prop
  /-- The bundles are there already. -/
  | kept {own : List Event} (count : c.performed.renderer.builds = c.renderer.builds)
      (adds : c.op.Adds c.performed.outcome.error? own) : Logs c own
  /-- A build succeeds. -/
  | built {progress own : List Event} {bundles fragments : Nat}
      (steps : ∀ event ∈ progress, event.isProgress = true)
      (count : c.performed.renderer.builds = c.renderer.builds + 1)
      (adds : c.op.Adds c.performed.outcome.error? own) :
      Logs c (progress ++ .cacheBuilt bundles fragments :: own)
  /-- A build fails, and so does the call. -/
  | failed {progress : List Event} {e : BuildError}
      (steps : ∀ event ∈ progress, event.isProgress = true)
      (count : c.performed.renderer.builds = c.renderer.builds)
      (error : c.performed.outcome.error? = some (.build e)) : Logs c (progress ++ [.buildFailed])

namespace Call

variable (c : Call Request)

/-- **A call has no other way to report.** -/
theorem logs : c.Logs c.performed.log := by
  have hresolved := c.renderer.bundles_resolved c.files c.order
  have hrenderer : c.performed.renderer = (c.renderer.bundles c.files c.order).renderer :=
    c.op.perform_renderer c.renderer c.files c.order
  have hadds := fun cache => @Operation.perform_adds _ c.renderer c.files c.order cache c.op
  have hreports := fun e => @reports_iff _ c e
  have hlog := fun e => @Operation.perform_log_of_error _ c.renderer c.files c.order c.op e
  generalize c.renderer.bundles c.files c.order = step at *
  cases hresolved with
  | @kept cache on held =>
      obtain ⟨own, hown, hadds⟩ := hadds cache rfl
      rw [List.nil_append] at hown
      rw [performed, hown]
      refine .kept ?_ hadds
      rw [hrenderer]
  | @built cache needed success =>
      obtain ⟨own, hown, hadds⟩ := hadds cache rfl
      obtain ⟨progress, fragments, hbuild, hsteps⟩ := buildSite_log_ok success
      rw [performed, hown, hbuild, List.append_assoc]
      refine .built hsteps ?_ hadds
      rw [hrenderer]
  | @failed e needed failure =>
      rw [performed, hlog _ rfl]
      refine .failed (buildSite_log_error failure) ?_ ((hreports e).mpr rfl)
      rw [hrenderer]

/-- How often and where a call reports that it failed. -/
structure Reported (c : Call Request) : Prop where
  /-- A call that fails reports its error once, as the last of its events, and no other failure. -/
  failed : ∀ e, c.performed.outcome.error? = some e →
    ∃ event, event.Reports c.op e ∧ (event.level, event.message) = e.announcement ∧
      c.performed.log.filter Event.isFailure = [event] ∧ c.performed.log.getLast? = some event
  /-- A call that succeeds reports no failure. -/
  succeeded : c.performed.outcome.error? = none →
    ∀ event ∈ c.performed.log, event.isFailure = false

variable {c}

theorem reported_of_adds {front own : List Event}
    (hlog : c.performed.log = front ++ own) (hfront : ∀ event ∈ front, event.isFailure = false)
    (adds : c.op.Adds c.performed.outcome.error? own) : c.Reported := by
  have hnone : front.filter Event.isFailure = [] :=
    List.filter_eq_nil_iff.mpr fun event hevent => by simp [hfront event hevent]
  generalize herror : c.performed.outcome.error? = error at adds
  cases adds with
  | nothing =>
      refine ⟨fun e he => ?_, fun _ event hevent => ?_⟩
      · cases herror.symm.trans he
      · rw [hlog, List.append_nil] at hevent
        exact hfront event hevent
  | @report e event reports =>
      refine ⟨fun e' he => ?_, fun he => ?_⟩
      · cases herror.symm.trans he
        refine ⟨event, reports, reports.announced, ?_, ?_⟩
        · rw [hlog, List.filter_append, hnone]
          simp [reports.kinds.1]
        · rw [hlog, List.getLast?_concat]
      · cases herror.symm.trans he

/-- **Every call reports its failure once and last, and a success not at all.** -/
theorem reported (c : Call Request) : c.Reported := by
  have hlogs := c.logs
  generalize hlog : c.performed.log = log at hlogs
  cases hlogs with
  | kept _ adds => exact @reported_of_adds _ c [] log hlog (by simp) adds
  | @built progress own bundles fragments steps _ adds =>
      rw [List.append_cons] at hlog
      refine reported_of_adds hlog (fun event hevent => ?_) adds
      rcases List.mem_append.mp hevent with hevent | hevent
      · exact (Event.isProgress_kinds (steps event hevent)).1
      · cases List.mem_singleton.mp hevent
        rfl
  | @failed progress e steps _ error =>
      refine reported_of_adds hlog (fun event hevent => ?_) ?_
      · exact (Event.isProgress_kinds (steps event hevent)).1
      · rw [error]
        exact .report .build

end Call

/-! ### Runs -/

/-- What calls have reported, one after the other. -/
def logOf (calls : List (Call Request)) : List Event := calls.flatMap fun call => call.performed.log

/-- How many of these events tell of a build that has succeeded. -/
def builtEvents (log : List Event) : Nat := log.countP Event.isCacheBuilt

theorem logOf_concat (past : List (Call Request)) (call : Call Request) :
    logOf (past ++ [call]) = logOf past ++ call.performed.log := by
  rw [logOf, logOf, List.flatMap_append, List.flatMap_singleton]

theorem builtEvents_append (log later : List Event) :
    builtEvents (log ++ later) = builtEvents log + builtEvents later :=
  List.countP_append

theorem builtEvents_of_progress {progress : List Event}
    (steps : ∀ event ∈ progress, event.isProgress = true) : builtEvents progress = 0 := by
  refine List.countP_eq_zero.mpr fun event hevent => ?_
  simp [(Event.isProgress_kinds (steps event hevent)).2]

theorem Operation.Adds.builtEvents {op : Operation Request} {error : Option RenderError}
    {own : List Event} (h : op.Adds error own) : builtEvents own = 0 := by
  cases h with
  | nothing => rfl
  | report reports => simp [Folio.builtEvents, reports.kinds.2]

theorem Operation.Adds.isOfBuild {op : Operation Request} {error : Option RenderError}
    {own : List Event} (h : op.Adds error own) (hne : ∀ e, error ≠ some (.build e)) :
    ∀ event ∈ own, event.isOfBuild = false := by
  cases h with
  | nothing => exact fun event h => absurd h List.not_mem_nil
  | report reports =>
      refine List.forall_mem_singleton.mpr ?_
      cases reports with
      | build => exact absurd rfl (hne _)
      | notFound page => rfl
      | execution page => rfl
      | io page => rfl

/-- A call reports a built cache as often as it counts one. -/
theorem Call.builds_eq (c : Call Request) :
    c.performed.renderer.builds = c.renderer.builds + builtEvents c.performed.log := by
  have hlogs := c.logs
  generalize c.performed.log = log at hlogs
  cases hlogs with
  | kept count adds => rw [count, adds.builtEvents, Nat.add_zero]
  | @built progress own bundles fragments steps count adds =>
      have hown : builtEvents (.cacheBuilt bundles fragments :: own) = 1 := by
        rw [builtEvents, List.countP_cons_of_pos rfl]
        exact congrArg (· + 1) adds.builtEvents
      rw [count, builtEvents_append, builtEvents_of_progress steps, hown]
  | failed steps count _ =>
      rw [count, builtEvents_append, builtEvents_of_progress steps]
      rfl

/-- What the log of a run says, at a call that comes after those of `past`. -/
structure Call.Logged (config : Config) (past : List (Call Request)) (call : Call Request) :
    Prop where
  /-- Before and after the call as many builds are counted as have been reported. -/
  before : call.renderer.builds = builtEvents (logOf past)
  after : call.performed.renderer.builds = builtEvents (logOf (past ++ [call]))
  reported : call.Reported
  /-- A renderer that keeps its bundles reports nothing more of builds once one has succeeded. -/
  settled : config.cacheEnabled = true → builtEvents (logOf past) ≠ 0 →
    ∀ event ∈ call.performed.log, event.isOfBuild = false

section Run

variable {config : Config} {tokens : TokenSource Request} {files : FileTree}
  {actions : List (Action Request)} {past after : List (Call Request)} {call : Call Request}

/-- A new renderer has counted as many builds as it has reported. -/
theorem builds_of_run
    (h : Renderer.calls { config, tokens } files actions = past ++ call :: after) :
    call.renderer.builds = builtEvents (logOf past) :=
  @calls_invariant Request (fun past r _ => r.builds = builtEvents (logOf past)) actions
    (fun _ _ _ _ _ h => h) (fun _ _ _ _ h => h)
    (fun op order past r files h => by
      rw [logOf_concat, builtEvents_append, ← h]
      exact Call.builds_eq ⟨op, r, files, order⟩)
    [] _ files rfl past call after h

/-- Once it has built, a renderer that keeps its bundles reports nothing of builds any more. -/
theorem settled_of_run
    (h : Renderer.calls { config, tokens } files actions = past ++ call :: after)
    (on : config.cacheEnabled = true) (hbuilt : builtEvents (logOf past) ≠ 0) :
    ∀ event ∈ call.performed.log, event.isOfBuild = false := by
  have hconfig : config.withCache true = config := by
    rw [Config.withCache, ← on]
  rw [← hconfig] at h
  have hretains := retains_of_run h
  have hpast : builtAt config past ≠ [] := by
    intro hnone
    have hzero := hretains.builds
    rw [if_pos hnone, builds_of_run h] at hzero
    exact hbuilt hzero
  obtain ⟨cache, hkept⟩ := hretains.kept hpast call.files call.order
  have hresult : (call.renderer.bundles call.files call.order).result = .ok cache := by
    rw [hkept]
  obtain ⟨own, hlog, adds⟩ := call.op.perform_adds hresult
  rw [hkept, List.nil_append] at hlog
  rw [Call.performed, hlog]
  refine adds.isOfBuild fun e he => ?_
  rw [Call.reports_iff.mp he] at hresult
  cases hresult

end Run

/--
**Failures are reported exactly once.**

Let a new renderer, whether it keeps its bundles or not, go through any actions.  At every call, and
after it, as many builds are counted as have been reported.  A call that fails reports this once, as
the last of its events, with the level and the message that belong to the error and the name of the
page that was asked for, and it reports no other failure; a call that succeeds reports none.  A
renderer that keeps its bundles reports nothing more of builds once one of them has succeeded.
-/
theorem failures_reported_once (config : Config) (tokens : TokenSource Request) (files : FileTree)
    (actions : List (Action Request)) :
    let r : Renderer Request := { config, tokens }
    r.run files actions = (r.calls files actions).map Call.performed ∧
    ∀ past call after, r.calls files actions = past ++ call :: after →
      call.Logged config past := by
  refine ⟨run_eq_calls actions _ files, fun past call after h => ?_⟩
  refine ⟨builds_of_run h, ?_, call.reported, settled_of_run h⟩
  rw [logOf_concat, builtEvents_append, ← builds_of_run h]
  exact call.builds_eq

end Folio
