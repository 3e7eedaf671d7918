/-
How often a renderer has built.

What a run comes to is said by the files alone: `builtAt` lists the bundles that the site can be
built to at some calls, from the files that these calls meet.  A renderer that keeps nothing has
counted as many builds as there are such calls behind it, whatever the calls went on to return.  One
that keeps its bundles holds the first entry of that list and has counted one build, or none as long
as the list is empty; from then on it neither changes nor reports a failed build.

Both are invariants of a run that speak of the calls behind it (`Recounts`, `Retains`), and
`calls_invariant` carries them through the run.  The step is the case analysis of `Resolved`: the
counter and the cell change in the one case in which a build succeeds, and there both do.
-/
import Folio.Proofs.AntiForgery
import Folio.Proofs.FirstUse
import Folio.Proofs.Snapshot

namespace Folio

variable {Request : Type}

/-! ### Failed builds -/

namespace Call

variable {c : Call Request} {e : BuildError}

/-- A call reports a failed build exactly if a failed build keeps it from its bundles. -/
theorem reports_iff : c.performed.outcome.error? = some (.build e) ↔
    (c.renderer.bundles c.files c.order).result = .error (.build e) := by
  rw [c.outcome_eq]
  cases hbundles : (c.renderer.bundles c.files c.order).result with
  | ok cache =>
      refine iff_of_false (FirstUse.answer_error?_ne_build c.op _ cache e) ?_
      simp
  | error e' =>
      show (c.op.refusal e').error? = some (.build e) ↔ _
      rw [FirstUse.refusal_error?]
      simp

theorem renderer_of_reports (h : c.performed.outcome.error? = some (.build e)) :
    c.performed.renderer = c.renderer := by
  show (c.op.perform c.renderer c.files c.order).renderer = _
  rw [c.op.perform_renderer]
  have hfailed := reports_iff.mp h
  have hresolved := c.renderer.bundles_resolved c.files c.order
  generalize c.renderer.bundles c.files c.order = step at hfailed hresolved
  cases hresolved with
  | kept => cases hfailed
  | built => cases hfailed
  | failed => rfl

/-- Where nothing is kept a call reports the failure of a build from the files it meets. -/
theorem reports_iff_of_needed
    (needed : c.renderer.config.cacheEnabled = true → c.renderer.cached = none) :
    c.performed.outcome.error? = some (.build e) ↔
      (buildSite c.renderer.config c.files c.order).result = .error e := by
  rw [reports_iff, Renderer.bundles_of_needed c.files c.order needed, mapError_eq_error]
  simp

end Call

/-! ### Builds that succeed -/

/-- What the site can be built to at these calls, from the files that they meet. -/
def builtAt (config : Config) (calls : List (Call Request)) : List Cache :=
  calls.filterMap fun call => (buildSite config call.files call.order).result.toOption

section BuiltAt

variable {config : Config} (past : List (Call Request)) (op : Operation Request)
  (r : Renderer Request) {files : FileTree} {order : TemplateOrder}

theorem builtAt_append (later : List (Call Request)) :
    builtAt config (past ++ later) = builtAt config past ++ builtAt config later :=
  List.filterMap_append

theorem builtAt_of_ok {cache : Cache} (h : (buildSite config files order).result = .ok cache) :
    builtAt config (past ++ [⟨op, r, files, order⟩]) = builtAt config past ++ [cache] := by
  rw [builtAt_append]
  simp [builtAt, h, Except.toOption]

theorem builtAt_of_error {e : BuildError} (h : (buildSite config files order).result = .error e) :
    builtAt config (past ++ [⟨op, r, files, order⟩]) = builtAt config past := by
  rw [builtAt_append]
  simp [builtAt, h, Except.toOption]

end BuiltAt

/-- The books of a renderer that keeps nothing: it has counted every build that succeeded. -/
structure Recounts (config : Config) (past : List (Call Request)) (r : Renderer Request) :
    Prop where
  settings : r.config = config.withCache false
  builds : r.builds = (builtAt config past).length

/-- The books of a renderer that keeps its bundles: the first build that succeeded has filled the
cell and is the only one that was counted. -/
structure Retains (config : Config) (past : List (Call Request)) (r : Renderer Request) :
    Prop where
  settings : r.config = config.withCache true
  cached : r.cached = (builtAt config past).head?
  builds : r.builds = if builtAt config past = [] then 0 else 1

section Step

variable {config : Config} {past : List (Call Request)} {r : Renderer Request}

/-- A call of a renderer that keeps nothing adds to the count what it can build. -/
theorem Recounts.step (h : Recounts config past r) (op : Operation Request) (files : FileTree)
    (order : TemplateOrder) :
    Recounts config (past ++ [⟨op, r, files, order⟩]) (op.perform r files order).renderer := by
  rw [op.perform_renderer]
  have hbuild : (buildSite r.config files order).result =
      (buildSite config files order).result := by
    rw [h.settings, Build.buildSite_withCache]
  have hresolved := r.bundles_resolved files order
  generalize r.bundles files order = step at hresolved
  cases hresolved with
  | kept on held =>
      rw [h.settings] at on
      cases on
  | built _ success =>
      refine ⟨h.settings, ?_⟩
      rw [builtAt_of_ok past op r (hbuild.symm.trans success), List.length_append, ← h.builds]
      rfl
  | failed _ failure =>
      refine ⟨h.settings, ?_⟩
      rw [builtAt_of_error past op r (hbuild.symm.trans failure)]
      exact h.builds

theorem Retains.kept (h : Retains config past r) (hpast : builtAt config past ≠ [])
    (files : FileTree) (order : TemplateOrder) :
    ∃ cache, r.bundles files order = { renderer := r, result := .ok cache } := by
  cases hcaches : builtAt config past with
  | nil => exact absurd hcaches hpast
  | cons cache later =>
      refine ⟨cache, Renderer.bundles_of_kept files order ?_ ?_⟩
      · rw [h.settings]
        rfl
      · rw [h.cached, hcaches]
        rfl

theorem Retains.empty (h : Retains config past r) (hpast : builtAt config past = []) :
    r.cached = none := by
  rw [h.cached, hpast]
  rfl

/-- A call of a renderer that keeps its bundles fills the cell and counts once, if at all. -/
theorem Retains.step (h : Retains config past r) (op : Operation Request) (files : FileTree)
    (order : TemplateOrder) :
    Retains config (past ++ [⟨op, r, files, order⟩]) (op.perform r files order).renderer := by
  rw [op.perform_renderer]
  by_cases hpast : builtAt config past = []
  · have hbuild : (buildSite r.config files order).result =
        (buildSite config files order).result := by
      rw [h.settings, Build.buildSite_withCache]
    have hempty := h.empty hpast
    have hresolved := r.bundles_resolved files order
    generalize r.bundles files order = step at hresolved
    cases hresolved with
    | kept _ held => cases hempty.symm.trans held
    | built _ success =>
        have hcaches := builtAt_of_ok past op r (hbuild.symm.trans success)
        rw [hpast, List.nil_append] at hcaches
        refine ⟨h.settings, ?_, ?_⟩
        · rw [hcaches, h.settings]
          rfl
        · show r.builds + 1 = _
          rw [hcaches, h.builds, hpast]
          rfl
    | failed _ failure =>
        have hcaches := builtAt_of_error past op r (hbuild.symm.trans failure)
        refine ⟨h.settings, ?_, ?_⟩
        · rw [hcaches]
          exact h.cached
        · rw [hcaches]
          exact h.builds
  · obtain ⟨cache, hkept⟩ := h.kept hpast files order
    rw [hkept]
    -- What the later calls could be built to stands behind the first entry and is not looked at.
    obtain ⟨first, rest, hcaches⟩ := List.exists_cons_of_ne_nil hpast
    have hcached := h.cached
    have hbuilds := h.builds
    rw [hcaches] at hcached hbuilds
    refine ⟨h.settings, ?_, ?_⟩
    · rw [builtAt_append, hcaches]
      exact hcached
    · rw [builtAt_append, hcaches]
      exact hbuilds

/-- What has come into the cell stays there, counted once. -/
theorem Retains.permanent {later : List (Call Request)} {r' : Renderer Request} {cache : Cache}
    (h : Retains config past r) (h' : Retains config (past ++ later) r')
    (held : r.cached = some cache) : r'.cached = some cache ∧ r'.builds = 1 := by
  obtain ⟨rest, hcaches⟩ := List.head?_eq_some_iff.mp (h.cached.symm.trans held)
  have hcached := h'.cached
  have hbuilds := h'.builds
  rw [builtAt_append, hcaches] at hcached hbuilds
  exact ⟨hcached, hbuilds⟩

end Step

/-! ### Runs -/

/-- What a call of a renderer that keeps nothing does, after the calls of `past`. -/
structure Recounted (config : Config) (past : List (Call Request)) (call : Call Request) :
    Prop where
  before : Recounts config past call.renderer
  after : Recounts config (past ++ [call]) call.performed.renderer
  /-- It runs a build from the files that it meets, and reports its failure. -/
  reports : ∀ e, call.performed.outcome.error? = some (.build e) ↔
    (buildSite config call.files call.order).result = .error e
  /-- A build that fails leaves the renderer as it was. -/
  failed : ∀ e, call.performed.outcome.error? = some (.build e) →
    call.performed.renderer = call.renderer

/-- What a call of a renderer that keeps its bundles does, after the calls of `past`. -/
structure Retained (config : Config) (past : List (Call Request)) (call : Call Request) :
    Prop where
  before : Retains config past call.renderer
  after : Retains config (past ++ [call]) call.performed.renderer
  /-- Until a build has succeeded, it runs one from the files that it meets, and reports its
  failure. -/
  reports : builtAt config past = [] → ∀ e,
    call.performed.outcome.error? = some (.build e) ↔
      (buildSite config call.files call.order).result = .error e
  /-- A build that fails leaves the renderer as it was, cell and counter included. -/
  failed : ∀ e, call.performed.outcome.error? = some (.build e) →
    call.performed.renderer = call.renderer
  /-- Once a build has succeeded, nothing changes any more and no failed build is reported. -/
  settled : builtAt config past ≠ [] → call.performed.renderer = call.renderer ∧
    ∀ e, call.performed.outcome.error? ≠ some (.build e)
  /-- What an earlier call has left in the cell is there still, and was counted once. -/
  permanent : ∀ earlier ∈ past, ∀ cache, earlier.performed.renderer.cached = some cache →
    call.performed.renderer.cached = some cache ∧ call.performed.renderer.builds = 1

section Run

variable {config : Config} {tokens : TokenSource Request} {files : FileTree}
  {actions : List (Action Request)} {before after : List (Call Request)} {call : Call Request}

theorem recounts_of_run (h : Renderer.calls { config := config.withCache false, tokens } files
    actions = before ++ call :: after) : Recounts config before call.renderer :=
  @calls_invariant Request (fun past r _ => Recounts config past r) actions
    (fun _ _ _ _ _ h => h) (fun _ _ _ _ h => ⟨h.settings, h.builds⟩)
    (fun op order _ _ files h => h.step op files order) [] _ files ⟨rfl, rfl⟩ before call after h

theorem retains_of_run (h : Renderer.calls { config := config.withCache true, tokens } files
    actions = before ++ call :: after) : Retains config before call.renderer :=
  @calls_invariant Request (fun past r _ => Retains config past r) actions
    (fun _ _ _ _ _ h => h) (fun _ _ _ _ h => ⟨h.settings, h.cached, h.builds⟩)
    (fun op order _ _ files h => h.step op files order)
    [] _ files ⟨rfl, rfl, rfl⟩ before call after h

end Run

/--
**A renderer counts the builds that succeed, and keeps the first one.**

Let a new renderer go through any actions, its calls meeting the files as they are then.  If it
keeps nothing, the number of builds it has counted is, before and after every call, the number of
calls so far that met files from which the site can be built; what a call returned apart from that
makes no difference.  If it keeps its bundles, the cell holds what the first of these builds gave
and the count is one, and the cell is empty and the count is zero before that; from then on no call
changes the renderer or reports a failed build.  In both cases a call whose build fails reports
it and leaves the renderer as it was.
-/
theorem build_accounting (config : Config) (tokens : TokenSource Request) (files : FileTree)
    (actions : List (Action Request)) :
    (∀ before call after,
      Renderer.calls { config := config.withCache false, tokens } files actions =
        before ++ call :: after → Recounted config before call) ∧
    (∀ before call after,
      Renderer.calls { config := config.withCache true, tokens } files actions =
        before ++ call :: after → Retained config before call) := by
  refine ⟨fun before call after hsplit => ?_, fun before call after hsplit => ?_⟩
  · have hbefore := recounts_of_run hsplit
    refine ⟨hbefore, hbefore.step call.op call.files call.order, fun e => ?_,
      fun e => Call.renderer_of_reports⟩
    rw [Call.reports_iff_of_needed, hbefore.settings, Build.buildSite_withCache]
    rw [hbefore.settings]
    intro on
    cases on
  · have hbefore := retains_of_run hsplit
    have hafter := hbefore.step call.op call.files call.order
    refine ⟨hbefore, hafter, fun hpast e => ?_, fun e => Call.renderer_of_reports,
      fun hpast => ?_, fun earlier hearlier cache hcached => ?_⟩
    · rw [Call.reports_iff_of_needed fun _ => hbefore.empty hpast, hbefore.settings,
        Build.buildSite_withCache]
    · obtain ⟨cache, hkept⟩ := hbefore.kept hpast call.files call.order
      refine ⟨?_, fun e hreports => ?_⟩
      · show (call.op.perform call.renderer call.files call.order).renderer = _
        rw [call.op.perform_renderer, hkept]
      · have hfailed := Call.reports_iff.mp hreports
        rw [hkept] at hfailed
        cases hfailed
    · obtain ⟨front, behind, rfl⟩ := List.append_of_mem hearlier
      have hearlier : Retains config front earlier.renderer :=
        retains_of_run (by simpa using hsplit)
      have hlist : front ++ earlier :: behind ++ [call] =
          (front ++ [earlier]) ++ (behind ++ [call]) := by simp
      rw [hlist] at hafter
      exact (hearlier.step earlier.op earlier.files earlier.order).permanent hafter hcached

end Folio
