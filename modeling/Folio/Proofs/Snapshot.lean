/-
Keeping the bundles is a snapshot of building them each time.

Two renderers of one site differ only in whether they keep their bundles, and they go through
the same actions, except that the second one is spared every edit after the first operation
whose build succeeds.  It is shown that nobody can tell them apart by results, views, sinks or
token requests, as long as the builds for the same operation list their templates in the same
order; and if not, by nothing but the template that a failed build reports.

The run falls into two parts.  Up to the first build that succeeds both renderers build from
the same files at every operation, and fail alike.  After it the one reads what it keeps and
the other one builds, again and again, from files that no longer change; `snapshot_run` is
that part, and its invariant is that a build from these files gives the kept bundles.
-/
import Folio.Proofs.Run

namespace Folio

variable {Request : Type}

/-! ### Building does not depend on whether bundles are kept -/

namespace Build

theorem addPages_withCache (config : Config) (enabled : Bool) (files : FileTree)
    (order : TemplateOrder) (fragments : List Source) (pages : List TemplateFile) :
    ∀ cache : Cache, addPages (config.withCache enabled) files order fragments cache pages =
      addPages config files order fragments cache pages := by
  induction pages with
  | nil => intro cache; rfl
  | cons page rest ih =>
      intro cache
      have hcompile : compileBundle (config.withCache enabled) files order fragments page =
          compileBundle config files order fragments page := rfl
      have hpolicy : (config.withCache enabled).collisions = config.collisions := rfl
      unfold addPages
      simp only [hcompile, hpolicy, ih]

theorem buildSite_withCache (config : Config) (enabled : Bool) (files : FileTree)
    (order : TemplateOrder) :
    buildSite (config.withCache enabled) files order = buildSite config files order := by
  have hsources : sources (config.withCache enabled) files = sources config files := rfl
  have hfunctions : (config.withCache enabled).functions = config.functions := rfl
  unfold buildSite ofSources
  simp only [hsources, hfunctions, addPages_withCache]

end Build

/-! ### Runs without late edits -/

/-- The actions of a run, without the edits after the first operation whose build succeeds. -/
def withheld (config : Config) (files : FileTree) :
    List (Action Request) → List (Action Request)
  | [] => []
  | .edit change :: rest => .edit change :: withheld config (change files) rest
  | .retoken tokens :: rest => .retoken tokens :: withheld config files rest
  | .operation op order :: rest =>
    .operation op order ::
      match (buildSite config files order).result with
      | .ok _ => rest.filter (!·.isEdit)
      | .error _ => withheld config files rest

/-- A renderer of the site `config` that keeps its bundles, and one that does not. -/
structure Twins (config : Config) (keeps builds : Renderer Request) : Prop where
  keepsConfig : keeps.config = config.withCache true
  buildsConfig : builds.config = config.withCache false
  tokens : keeps.tokens = builds.tokens

namespace Twins

variable {config : Config} {keeps builds : Renderer Request}

theorem retoken (h : Twins config keeps builds) (tokens : TokenSource Request) :
    Twins config { keeps with tokens } { builds with tokens } :=
  ⟨h.keepsConfig, h.buildsConfig, rfl⟩

theorem perform (h : Twins config keeps builds) (op : Operation Request)
    (files files' : FileTree) (order : TemplateOrder) :
    Twins config (op.perform keeps files order).renderer
      (op.perform builds files' order).renderer := by
  rw [op.perform_renderer, op.perform_renderer]
  obtain ⟨-, hkconfig, hktokens⟩ := keeps.bundles_frame files order
  obtain ⟨-, hbconfig, hbtokens⟩ := builds.bundles_frame files' order
  refine ⟨?_, ?_, ?_⟩
  · rw [hkconfig, h.keepsConfig]
  · rw [hbconfig, h.buildsConfig]
  · rw [hktokens, hbtokens, h.tokens]

/-- The second one builds at every operation. -/
theorem builds_result (h : Twins config keeps builds) (files : FileTree) (order : TemplateOrder) :
    (builds.bundles files order).result =
      (buildSite config files order).result.mapError .build := by
  have hneeded : builds.config.cacheEnabled = true → builds.cached = none := by
    rw [h.buildsConfig]
    intro hon
    simp [Config.withCache] at hon
  rw [Renderer.bundles_of_needed files order hneeded, h.buildsConfig, Build.buildSite_withCache]

/-- The first one builds as long as it keeps nothing. -/
theorem keeps_result (h : Twins config keeps builds) (files : FileTree) (order : TemplateOrder)
    (hempty : keeps.cached = none) :
    (keeps.bundles files order).result =
      (buildSite config files order).result.mapError .build := by
  rw [Renderer.bundles_of_needed files order (fun _ => hempty), h.keepsConfig,
    Build.buildSite_withCache]

theorem keeps_on (h : Twins config keeps builds) : keeps.config.cacheEnabled = true := by
  rw [h.keepsConfig]
  rfl

end Twins

/-! ### The two parts of a run -/

/-- **After the first success.**  One renderer keeps what a build from `built` gives, and the
other one never gets to see anything but `built`. -/
theorem snapshot_run {config : Config} {built : FileTree} {cache : Cache}
    (hbuild : ∀ order, (buildSite config built order).result = .ok cache)
    (actions : List (Action Request)) :
    ∀ {keeps builds : Renderer Request} (files : FileTree), Twins config keeps builds →
      keeps.cached = some cache →
      (keeps.run files actions).map Performed.seen =
        (builds.run built (actions.filter (!·.isEdit))).map Performed.seen := by
  induction actions with
  | nil => intro keeps builds files _ _; rfl
  | cons action rest ih =>
      intro keeps builds files h hheld
      cases action with
      | edit change => exact ih (change files) h hheld
      | retoken tokens => exact ih files (h.retoken tokens) hheld
      | operation op order =>
          have hkept := Renderer.bundles_of_kept files order h.keeps_on hheld
          have hnext : (op.perform keeps files order).renderer.cached = some cache := by
            rw [op.perform_renderer, hkept]
            exact hheld
          have hseen : (op.perform keeps files order).seen =
              (op.perform builds built order).seen := by
            rw [op.perform_seen, op.perform_seen, hkept, h.builds_result, hbuild, h.tokens]
            rfl
          show (op.perform keeps files order).seen :: _ = (op.perform builds built order).seen :: _
          rw [hseen]
          congr 1
          exact ih files (h.perform op files built order) hnext

/-- **From the start.**  Until a build succeeds both renderers follow the files. -/
theorem twins_run {config : Config} (actions : List (Action Request)) :
    ∀ {keeps builds : Renderer Request} (files : FileTree), Twins config keeps builds →
      keeps.cached = none →
      (keeps.run files actions).map Performed.seen =
        (builds.run files (withheld config files actions)).map Performed.seen := by
  induction actions with
  | nil => intro keeps builds files _ _; rfl
  | cons action rest ih =>
      intro keeps builds files h hempty
      cases action with
      | edit change => exact ih (change files) h hempty
      | retoken tokens => exact ih files (h.retoken tokens) hempty
      | operation op order =>
          have hseen : (op.perform keeps files order).seen =
              (op.perform builds files order).seen := by
            rw [op.perform_seen, op.perform_seen, h.keeps_result files order hempty,
              h.builds_result, h.tokens]
          have hcached : (op.perform keeps files order).renderer.cached =
              (buildSite config files order).result.toOption := by
            rw [op.perform_renderer, Renderer.bundles_cached files order h.keeps_on hempty,
              h.keepsConfig, Build.buildSite_withCache]
          show (op.perform keeps files order).seen :: _ = (op.perform builds files order).seen :: _
          rw [hseen]
          congr 1
          cases hbuild : (buildSite config files order).result with
          | ok cache =>
              rw [hbuild] at hcached
              have hbuild : ∀ order', (buildSite config files order').result = .ok cache := by
                intro order'
                rw [buildSite_order_of_ok order' hbuild, hbuild]
              exact snapshot_run hbuild rest files (h.perform op files files order) hcached
          | error e =>
              rw [hbuild] at hcached
              exact ih files (h.perform op files files order) hcached

/-- Operations that show the same agree with the same others. -/
theorem agrees_of_seen {ps qs rs : List (Performed Request)}
    (agree : List.Forall₂ Performed.Agrees qs rs) :
    ps.map Performed.seen = qs.map Performed.seen → List.Forall₂ Performed.Agrees ps rs := by
  induction agree generalizing ps with
  | nil =>
      intro h
      rw [List.map_eq_nil_iff.mp h]
      exact .nil
  | cons first _ ih =>
      intro h
      cases ps with
      | nil => cases h
      | cons p ps =>
          obtain ⟨hp, hps⟩ := List.cons.inj h
          obtain ⟨houtcome, hasked⟩ := Prod.mk.inj hp
          refine .cons ⟨?_, hasked.trans first.asked⟩ (ih hps)
          rw [houtcome]
          exact first.outcome

/--
**Keeping the bundles is a snapshot.**

Two new renderers of a site, one that keeps its bundles and one that does not, go through any
actions from the same files; the second one is spared the edits after the first operation
whose build succeeds.  Then every operation has the same outcome on both, result or error,
view and sink included, and asks for the same tokens.  This is so if their builds for the same
operation list templates in the same order.  In any other orders it is so, too, up to the
template that a failed build reports: where one of them reports unresolved names, the other
one does, in the bundle of the same page.
-/
theorem run_cached_eq_run_withheld (config : Config) (tokens : TokenSource Request)
    (files : FileTree) (actions : List (Action Request)) :
    let keeping := Renderer.run { config := config.withCache true, tokens } files actions
    let building := Renderer.run { config := config.withCache false, tokens } files
    keeping.map Performed.seen = (building (withheld config files actions)).map Performed.seen ∧
    ∀ redrawn, List.Forall₂ Action.Redrawn (withheld config files actions) redrawn →
      List.Forall₂ Performed.Agrees keeping (building redrawn) := by
  intro keeping building
  have hsame : keeping.map Performed.seen =
      (building (withheld config files actions)).map Performed.seen :=
    twins_run actions files ⟨rfl, rfl, rfl⟩ rfl
  exact ⟨hsame, fun redrawn h => agrees_of_seen (run_redrawn h _ files) hsame⟩

end Folio
