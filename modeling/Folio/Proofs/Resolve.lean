/-
What every operation begins with, and what the bundles answer.

An operation first resolves the bundles: they are the ones that are kept, or a build makes
them, or the build fails.  `Resolved` has one constructor for each of the three and says all
that happens in it, so later proofs do case analysis on it and never open `bundles` or
`build`.  From there on the answer depends on nothing but the bundles: `Cache.page` is that
answer as a function of its own, and `renderText_of_ok` says that rendering computes it.
-/
import Folio.Proofs.Fallible
import Folio.Site.Renderer

namespace Folio

variable {Request : Type}

namespace Renderer

/-- The three ways in which an operation gets hold of the bundles. -/
inductive Resolved (r : Renderer Request) (files : FileTree) (order : TemplateOrder) :
    Step Request Cache → Prop
  /-- The bundles that are kept are used; nothing is read, reported or counted. -/
  | kept {cache : Cache} (on : r.config.cacheEnabled = true) (held : r.cached = some cache) :
      Resolved r files order { renderer := r, result := .ok cache }
  /-- A build succeeds and is counted; if the site keeps its bundles, these are kept. -/
  | built {cache : Cache} (needed : r.config.cacheEnabled = true → r.cached = none)
      (success : (buildSite r.config files order).result = .ok cache) :
      Resolved r files order {
        renderer := { r with
          cached := if r.config.cacheEnabled then some cache else r.cached
          builds := r.builds + 1 }
        log := (buildSite r.config files order).log
        result := .ok cache }
  /-- A build fails and leaves the renderer as it was. -/
  | failed {e : BuildError} (needed : r.config.cacheEnabled = true → r.cached = none)
      (failure : (buildSite r.config files order).result = .error e) :
      Resolved r files order {
        renderer := r
        log := (buildSite r.config files order).log ++ [.buildFailed]
        result := .error (.build e) }

theorem build_of_ok {r : Renderer Request} {files : FileTree} {order : TemplateOrder}
    {cache : Cache} (h : (buildSite r.config files order).result = .ok cache) :
    r.build files order = {
      renderer := { r with builds := r.builds + 1 }
      log := (buildSite r.config files order).log
      result := .ok cache } := by
  unfold build
  simp only [h]

theorem build_of_error {r : Renderer Request} {files : FileTree} {order : TemplateOrder}
    {e : BuildError} (h : (buildSite r.config files order).result = .error e) :
    r.build files order = {
      renderer := r
      log := (buildSite r.config files order).log ++ [.buildFailed]
      result := .error (.build e) } := by
  unfold build
  simp only [h]

/-- **Getting hold of the bundles has no fourth outcome.** -/
theorem bundles_resolved (r : Renderer Request) (files : FileTree) (order : TemplateOrder) :
    Resolved r files order (r.bundles files order) := by
  unfold bundles
  by_cases hon : r.config.cacheEnabled = true
  · rw [if_pos hon]
    cases hheld : r.cached with
    | some cache => exact .kept hon hheld
    | none =>
        cases hbuild : (buildSite r.config files order).result with
        | ok cache =>
            have h := Resolved.built (fun _ => hheld) hbuild
            rw [if_pos hon] at h
            simp only [build_of_ok hbuild]
            exact h
        | error e =>
            simp only [build_of_error hbuild]
            exact .failed (fun _ => hheld) hbuild
  · rw [if_neg hon]
    have hneeded : r.config.cacheEnabled = true → r.cached = none := fun h => absurd h hon
    cases hbuild : (buildSite r.config files order).result with
    | ok cache =>
        have h := Resolved.built hneeded hbuild
        rw [if_neg hon] at h
        rw [build_of_ok hbuild]
        exact h
    | error e =>
        rw [build_of_error hbuild]
        exact .failed hneeded hbuild

/-- Only a failed build keeps an operation from its bundles. -/
theorem build_of_bundles_error {r : Renderer Request} {files : FileTree}
    {order : TemplateOrder} {e : RenderError} (h : (r.bundles files order).result = .error e) :
    ∃ cause, e = .build cause ∧ (buildSite r.config files order).result = .error cause := by
  have hr := r.bundles_resolved files order
  generalize r.bundles files order = step at h hr
  cases hr with
  | kept => simp at h
  | built => simp at h
  | failed _ failure =>
      simp only [Except.error.injEq] at h
      exact ⟨_, h.symm, failure⟩

/-- Getting hold of the bundles asks for no token and leaves the settings of the renderer. -/
theorem bundles_frame (r : Renderer Request) (files : FileTree) (order : TemplateOrder) :
    (r.bundles files order).asked = [] ∧ (r.bundles files order).renderer.config = r.config ∧
      (r.bundles files order).renderer.tokens = r.tokens := by
  have hr := r.bundles_resolved files order
  generalize r.bundles files order = step at hr
  cases hr <;> exact ⟨rfl, rfl, rfl⟩

theorem bundles_of_kept {r : Renderer Request} {cache : Cache} (files : FileTree)
    (order : TemplateOrder) (on : r.config.cacheEnabled = true) (held : r.cached = some cache) :
    r.bundles files order = { renderer := r, result := .ok cache } := by
  unfold bundles
  simp only [on, if_true, held]

theorem bundles_of_needed {r : Renderer Request} (files : FileTree) (order : TemplateOrder)
    (needed : r.config.cacheEnabled = true → r.cached = none) :
    (r.bundles files order).result = (buildSite r.config files order).result.mapError .build := by
  have hr := r.bundles_resolved files order
  generalize r.bundles files order = step at hr
  cases hr with
  | kept on held =>
      rw [needed on] at held
      simp at held
  | built _ success => rw [success]; rfl
  | failed _ failure => rw [failure]; rfl

/-- What is kept after an operation: what was kept before, or what a build has made. -/
theorem bundles_cached {r : Renderer Request} (files : FileTree) (order : TemplateOrder)
    (on : r.config.cacheEnabled = true) (empty : r.cached = none) :
    (r.bundles files order).renderer.cached = (buildSite r.config files order).result.toOption := by
  have hr := r.bundles_resolved files order
  generalize r.bundles files order = step at hr
  cases hr with
  | kept _ held =>
      rw [empty] at held
      simp at held
  | built _ success => rw [success]; simp only [on, if_true]; rfl
  | failed _ failure => rw [failure]; exact empty

end Renderer

/-! ### The answer of the bundles -/

theorem Cache.mem_names {cache : Cache} {name : String} :
    name ∈ cache.names ↔ ∃ bundle, cache.get? name = some bundle :=
  Dict.mem_keys

/-- What bundles answer to a request for a page, and the view afterwards. -/
def Cache.page (cache : Cache) (tokens : TokenSource Request) (request : Request)
    (name : String) (view : View) : Except RenderError String × View :=
  match cache.get? name with
  | none => (.error (.notFound name), view)
  | some bundle =>
    let view := view.withToken (tokens.issue request)
    ((bundle.execute (.ofJson view.toJson)).mapError (.execution name), view)

/-- The answer is a text, or the page is missing or fails; a sink plays no part in it. -/
theorem Cache.page_ne_io (cache : Cache) (tokens : TokenSource Request) (request : Request)
    (name : String) (view : View) (cause : IoError) :
    (cache.page tokens request name view).1 ≠ .error (.io cause) := by
  unfold page
  split
  · simp
  · rename_i bundle _
    cases h : bundle.execute (.ofJson (view.withToken (tokens.issue request)).toJson) with
    | ok output => simp [h]
    | error e => simp [h]

namespace Renderer

variable (r : Renderer Request) (files : FileTree) (request : Request) (name : String)
  (view : View) (order : TemplateOrder)

theorem renderText_of_error {e : RenderError} (h : (r.bundles files order).result = .error e) :
    (r.renderText files request name view order).1.result = .error e ∧
      (r.renderText files request name view order).2 = view := by
  unfold renderText
  simp only [h, and_self]

theorem renderText_of_ok {cache : Cache} (h : (r.bundles files order).result = .ok cache) :
    (r.renderText files request name view order).1.result =
        (cache.page r.tokens request name view).1 ∧
      (r.renderText files request name view order).2 =
        (cache.page r.tokens request name view).2 := by
  unfold renderText Cache.page
  simp only [h]
  cases hget : cache.get? name with
  | none => exact ⟨rfl, rfl⟩
  | some bundle =>
      simp only
      cases bundle.execute (.ofJson (view.withToken (r.tokens.issue request)).toJson) with
      | ok output => exact ⟨rfl, rfl⟩
      | error e => exact ⟨rfl, rfl⟩

/-- Finding and executing a page changes the renderer as getting hold of the bundles does. -/
theorem renderText_renderer :
    (r.renderText files request name view order).1.renderer = (r.bundles files order).renderer := by
  unfold renderText
  simp only
  split
  · rfl
  · split
    · rfl
    · split
      · rfl
      · rfl

theorem renderText_ne_io (cause : IoError) :
    (r.renderText files request name view order).1.result ≠ .error (.io cause) := by
  cases h : (r.bundles files order).result with
  | error e =>
      obtain ⟨cause', he, -⟩ := build_of_bundles_error h
      rw [(r.renderText_of_error files request name view order h).1, he]
      simp
  | ok cache =>
      rw [(r.renderText_of_ok files request name view order h).1]
      exact cache.page_ne_io r.tokens request name view cause

end Renderer

end Folio
