/-
What the order of templates decides.

A bundle lists its templates in an order that nobody has chosen, and of the templates that call
unresolved names it reports the first one.  So two builds of the same files may report different
templates of one bundle, and this is all that can tell them apart: either both succeed, with the
same bundles, or both fail at the same page, and the events are the same (`buildSite_order`).  If
they report the same template, they report the same names.  The difference is real, since each of
the templates in question is reported in some order (`exists_order_reporting`).

What a renderer does depends on the order through its builds alone, so that it goes no further than
to the error that a failed build is reported with (`Renderer.bundles_order`).
-/
import Folio.Proofs.FalseAlarms
import Folio.Proofs.Resolve

namespace Folio

variable {Request : Type}

/-! ### Errors and results -/

/-- The same error, or unresolved names in two templates of the bundle of one page. -/
inductive BuildError.Alike : BuildError → BuildError → Prop
  | refl (e : BuildError) : Alike e e
  | unresolved {page : Path} {template template' : String} {names names' : List String}
      (differ : template ≠ template') :
      Alike (.unresolvedName page template names) (.unresolvedName page template' names')

/-- The same error, or failed builds that are alike. -/
inductive RenderError.Alike : RenderError → RenderError → Prop
  | refl (e : RenderError) : Alike e e
  | build {e e' : BuildError} (alike : e.Alike e') : Alike (.build e) (.build e')

/-- Builds that differ at most in the template that they report. -/
structure Built.Alike {α : Type} (built built' : Built α) : Prop where
  log : built.log = built'.log
  result : Agree BuildError.Alike built.result built'.result

/-- Steps of a renderer that differ at most in the template that a failed build reports. -/
structure Step.Alike {α : Type} (step step' : Step Request α) : Prop where
  renderer : step.renderer = step'.renderer
  log : step.log = step'.log
  asked : step.asked = step'.asked
  result : Agree RenderError.Alike step.result step'.result

theorem Step.Alike.eq_of_ok {α : Type} {step step' : Step Request α} {a : α}
    (h : step.Alike step') (hok : step.result = .ok a) : step = step' := by
  have hok' := h.result.ok_iff.mp hok
  obtain ⟨hrenderer, hlog, hasked, -⟩ := h
  cases step
  cases step'
  simp_all

/-! ### Builds -/

namespace Build

variable {config : Config} {files : FileTree} {functions : Registry} {fragments : List Source}
  {path : Path} {page : TemplateFile} (order order' : TemplateOrder)

theorem checkNames_order {templates : Dict Template} : Agree BuildError.Alike
    (checkNames functions path (order.listed path templates))
    (checkNames functions path (order'.listed path templates)) := by
  cases h : checkNames functions path (order.listed path templates) with
  | ok =>
      rw [checkNames_listed_ok_iff.mpr (checkNames_listed_ok_iff.mp h)]
      exact .ok ()
  | error e =>
      cases h' : checkNames functions path (order'.listed path templates) with
      | ok =>
          rw [checkNames_listed_ok_iff.mpr (checkNames_listed_ok_iff.mp h')] at h
          cases h
      | error e' =>
          obtain ⟨⟨name, t⟩, hmem, -, rfl⟩ := checkNames_error h
          obtain ⟨⟨name', t'⟩, hmem', -, rfl⟩ := checkNames_error h'
          by_cases hname : name = name'
          · -- The names reported for one template are those that it calls.
            subst hname
            have ht := Dict.get?_eq_some_iff.mpr (TemplateOrder.mem_listed.mp hmem)
            have ht' := Dict.get?_eq_some_iff.mpr (TemplateOrder.mem_listed.mp hmem')
            cases ht.symm.trans ht'
            exact .error (.refl _)
          · exact .error (.unresolved hname)

theorem compileBundle_order : Agree BuildError.Alike
    (compileBundle config files order fragments page)
    (compileBundle config files order' fragments page) := by
  unfold compileBundle
  refine (Agree.refl .refl _).bind fun templates => ?_
  refine (Agree.refl .refl _).bind fun text => ?_
  refine (Agree.refl .refl _).bind fun t => ?_
  exact (checkNames_order order order').bind fun _ => .ok _

/-- A bundle that fails in one order fails in every other one, and with the same error where it
lists its templates in the same order. -/
theorem compileBundle_order_error {e : BuildError}
    (h : compileBundle config files order fragments page = .error e) :
    ∃ e', compileBundle config files order' fragments page = .error e' ∧ e.Alike e' ∧
      (order.listed page.path = order'.listed page.path → e' = e) := by
  obtain ⟨e', h', halike⟩ := (compileBundle_order order order').exists_error h
  refine ⟨e', h', halike, fun hlisted => ?_⟩
  unfold compileBundle at h h'
  rw [hlisted] at h
  cases h'.symm.trans h
  rfl

theorem addPages_order (pages : List TemplateFile) : ∀ cache : Cache,
    (addPages config files order fragments cache pages).Alike
      (addPages config files order' fragments cache pages) := by
  induction pages with
  | nil => exact fun cache => ⟨rfl, .ok cache⟩
  | cons page rest ih =>
      intro cache
      rw [addPages, addPages]
      have hbundle := @compileBundle_order config files fragments page order order'
      generalize compileBundle config files order fragments page = made at hbundle
      generalize compileBundle config files order' fragments page = made' at hbundle
      cases hbundle with
      | error halike => exact ⟨rfl, .error halike⟩
      | ok bundle =>
          dsimp only
          cases settleCollision config.collisions cache page with
          | error e => exact ⟨rfl, .error (.refl e)⟩
          | ok replaced =>
              have hlater := ih (cache.insert page.name bundle)
              exact ⟨congrArg (_ :: replaced ++ ·) hlater.log, hlater.result⟩

theorem ofSources_order (pages : List TemplateFile) :
    (ofSources config files order pages fragments).Alike
      (ofSources config files order' pages fragments) := by
  unfold ofSources
  dsimp only
  obtain ⟨hlog, hresult⟩ := @addPages_order config files fragments order order' pages {}
  rw [hlog]
  generalize (addPages config files order fragments {} pages).result = made at hresult
  generalize (addPages config files order' fragments {} pages).result = made' at hresult
  cases hresult with
  | ok cache => exact ⟨rfl, .ok cache⟩
  | error halike => exact ⟨rfl, .error halike⟩

end Build

section Site

variable (config : Config) (files : FileTree) (order order' : TemplateOrder)

/-- **Builds of the same files differ at most in the template that they report.** -/
theorem buildSite_order : (buildSite config files order).Alike (buildSite config files order') := by
  unfold buildSite
  cases Build.sources config files with
  | error e => exact ⟨rfl, .error (.refl e)⟩
  | ok found => exact Build.ofSources_order order order' found.1

variable {config files order}

/-- A build that succeeds does so in any order, and is the same. -/
theorem buildSite_order_of_ok {cache : Cache}
    (h : (buildSite config files order).result = .ok cache) :
    buildSite config files order' = buildSite config files order := by
  obtain ⟨hlog, hresult⟩ := buildSite_order config files order order'
  have h' := hresult.ok_iff.mp h
  cases hbuilt : buildSite config files order
  cases hbuilt' : buildSite config files order'
  simp_all

end Site

/-! ### Any template may be the one -/

/-- Every bundle lists the template of a name before the others. -/
def TemplateOrder.front (name : String) : TemplateOrder where
  listed _ templates :=
    templates.entries.filter (·.1 = name) ++ templates.entries.filter fun e => !decide (e.1 = name)
  perm _ _ := List.filter_append_perm ..

theorem TemplateOrder.front_listed {templates : Dict Template} {name : String} {t : Template}
    (page : Path) (h : templates.get? name = some t) :
    ∃ rest, (front name).listed page templates = (name, t) :: rest := by
  have hmem : (name, t) ∈ templates.entries.filter (·.1 = name) :=
    List.mem_filter.mpr ⟨Dict.get?_eq_some_iff.mp h, by simp⟩
  show ∃ rest, templates.entries.filter (·.1 = name) ++ _ = _
  cases hfound : templates.entries.filter (·.1 = name) with
  | nil =>
      rw [hfound] at hmem
      cases hmem
  | cons e later =>
      have he : e ∈ templates.entries.filter (·.1 = name) := by
        rw [hfound]
        exact List.mem_cons_self
      obtain ⟨n, u⟩ := e
      obtain ⟨hentry, hname⟩ := List.mem_filter.mp he
      obtain rfl : n = name := by simpa using hname
      cases h.symm.trans (Dict.get?_eq_some_iff.mpr hentry)
      exact ⟨_, rfl⟩

/-- **Each template of a bundle that calls unresolved names is reported in some order.** -/
theorem Build.exists_order_reporting {config : Config} {files : FileTree}
    {fragments : List Source} {file : TemplateFile} {templates : Dict Template}
    {name text : String} {t u : Template}
    (htemplates : compileFragments file.path {} fragments = .ok templates)
    (htext : files.readText file.path = .ok text) (ht : Template.compile file.name text = .ok t)
    (hget : (templates.insert file.name t).get? name = some u)
    (hne : unresolved config.functions u ≠ []) :
    ∃ order, compileBundle config files order fragments file =
      .error (.unresolvedName file.path name (unresolved config.functions u)) := by
  obtain ⟨rest, hlisted⟩ := TemplateOrder.front_listed file.path hget
  refine ⟨.front name, compileBundle_of_check htemplates htext ht ?_⟩
  rw [hlisted]
  exact checkNames_cons hne

/-! ### Renderers -/

namespace Renderer

variable (r : Renderer Request) (files : FileTree) (order order' : TemplateOrder)

theorem build_order : (r.build files order).Alike (r.build files order') := by
  obtain ⟨hlog, hresult⟩ := buildSite_order r.config files order order'
  unfold build
  dsimp only
  rw [hlog]
  generalize (buildSite r.config files order).result = made at hresult
  generalize (buildSite r.config files order').result = made' at hresult
  cases hresult with
  | ok cache => exact ⟨rfl, rfl, rfl, .ok cache⟩
  | error halike => exact ⟨rfl, rfl, rfl, .error (.build halike)⟩

/-- **Getting hold of the bundles depends on the order only where a build fails.** -/
theorem bundles_order : (r.bundles files order).Alike (r.bundles files order') := by
  have hbuild := r.build_order files order order'
  unfold bundles
  by_cases hon : r.config.cacheEnabled = true
  · rw [if_pos hon, if_pos hon]
    cases r.cached with
    | some cache => exact ⟨rfl, rfl, rfl, .ok cache⟩
    | none =>
        dsimp only
        cases hmade : (r.build files order).result with
        | ok cache =>
            rw [← hbuild.eq_of_ok hmade, hmade]
            exact ⟨rfl, rfl, rfl, .ok cache⟩
        | error e =>
            obtain ⟨e', hmade', -⟩ := hbuild.result.exists_error hmade
            rw [hmade']
            exact hbuild
  · rw [if_neg hon, if_neg hon]
    exact hbuild

variable (request : Request) (name : String) (view : View)

theorem renderText_order :
    (r.renderText files request name view order).1.Alike
        (r.renderText files request name view order').1 ∧
      (r.renderText files request name view order).2 =
        (r.renderText files request name view order').2 := by
  have hbundles := r.bundles_order files order order'
  cases hstep : (r.bundles files order).result with
  | ok cache =>
      unfold renderText
      rw [hbundles.eq_of_ok hstep]
      exact ⟨⟨rfl, rfl, rfl, .refl .refl _⟩, rfl⟩
  | error e =>
      obtain ⟨e', hstep', halike⟩ := hbundles.result.exists_error hstep
      unfold renderText
      simp only [hstep, hstep']
      exact ⟨⟨hbundles.renderer, hbundles.log, hbundles.asked, .error halike⟩, trivial⟩

theorem render_order (sink : Sink) :
    (r.render files request name view sink order).1.Alike
        (r.render files request name view sink order').1 ∧
      (r.render files request name view sink order).2 =
        (r.render files request name view sink order').2 := by
  obtain ⟨htext, hview⟩ := r.renderText_order files order order' request name view
  unfold render
  generalize r.renderText files request name view order = p at htext hview
  generalize r.renderText files request name view order' = p' at htext hview
  obtain ⟨step, view⟩ := p
  obtain ⟨step', view'⟩ := p'
  dsimp only at htext hview ⊢
  subst hview
  cases hstep : step.result with
  | ok output =>
      rw [← htext.eq_of_ok hstep, hstep]
      dsimp only
      split
      · exact ⟨⟨rfl, rfl, rfl, .ok ()⟩, rfl⟩
      · exact ⟨⟨rfl, rfl, rfl, .error (.refl _)⟩, rfl⟩
  | error e =>
      obtain ⟨e', hstep', halike⟩ := htext.result.exists_error hstep
      rw [hstep']
      exact ⟨⟨htext.renderer, htext.log, htext.asked, .error halike⟩, rfl⟩

end Renderer

end Folio
