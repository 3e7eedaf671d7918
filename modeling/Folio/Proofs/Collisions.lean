/-
Sites that refuse pages of one name.

A site either lets a later page take the place of an earlier one of its name, or refuses to be
built.  The two policies treat pages of different names alike: as long as no name comes up again
both builds are the same, step by step (`addPages_of_distinct`).  So what the refusing build comes
to can be read off the overwriting one and the names (`rejecting_build`).

Where both something else is wrong and a name comes up again, the first page that gives cause
decides.  On one page the bundle is compiled before the name is looked at, so of two causes on the
same page the collision is the one that stays unreported.

The orders in which the two builds list templates may differ; as far as the policies treat pages
alike, the lemmas are about one order, and the result about two of them brings both together.
-/
import Mathlib.Data.List.Induction
import Folio.Proofs.Composition

namespace Folio

namespace Build

variable {config : Config} {files : FileTree} {order order' : TemplateOrder}
  {fragments : List Source}

/-- No two of these pages have the same base name. -/
def Distinct (pages : List TemplateFile) : Prop := pages.Pairwise fun p q => p.name ≠ q.name

/-- The first page whose base name has come up before, and the page with which it came up. -/
def FirstRepeat (pages : List TemplateFile) (earlier later : TemplateFile) : Prop :=
  ∃ before after, pages = before ++ later :: after ∧ Distinct before ∧
    earlier ∈ before ∧ earlier.name = later.name

section Names

variable {pages before after : List TemplateFile} {page earlier later : TemplateFile}

theorem Distinct.lastNamed? (h : Distinct pages) (hpage : page ∈ pages) :
    lastNamed? page.name pages = some page := by
  induction pages with
  | nil => cases hpage
  | cons first rest ih =>
      obtain ⟨hfirst, hrest⟩ := List.pairwise_cons.mp h
      rw [lastNamed?_cons]
      rcases List.mem_cons.mp hpage with rfl | hpage
      · rw [lastNamed?_eq_none_iff.mpr fun p hp => (hfirst p hp).symm, Option.none_or, if_pos rfl]
      · rw [ih hrest hpage, Option.some_or]

/-- Unless all names are different there is a first one that comes up again. -/
theorem exists_firstRepeat (h : ¬ Distinct pages) :
    ∃ earlier later, FirstRepeat pages earlier later := by
  induction pages using List.reverseRecOn with
  | nil => exact absurd List.Pairwise.nil h
  | append_singleton front page ih =>
      by_cases hfront : Distinct front
      · have hmeets : ∃ p ∈ front, p.name = page.name := by
          refine Classical.byContradiction fun hnone => h ?_
          refine List.pairwise_append.mpr ⟨hfront, List.pairwise_singleton _ _, ?_⟩
          intro p hp q hq hname
          cases List.mem_singleton.mp hq
          exact hnone ⟨p, hp, hname⟩
        obtain ⟨p, hp, hname⟩ := hmeets
        exact ⟨p, page, front, [], rfl, hfront, hp, hname⟩
      · obtain ⟨earlier, later, before, after, rfl, hrepeat⟩ := ih hfront
        exact ⟨earlier, later, before, after ++ [page], by simp, hrepeat⟩

end Names

/-! ### The two policies -/

section Policies

variable {pages before after : List TemplateFile} {earlier later page : TemplateFile}

theorem addPages_append (before after : List TemplateFile) : ∀ cache : Cache,
    (addPages config files order fragments cache (before ++ after)).result =
      (addPages config files order fragments cache before).result.bind fun cache' =>
        (addPages config files order fragments cache' after).result := by
  induction before with
  | nil => intro cache; rfl
  | cons first before ih =>
      intro cache
      rw [List.cons_append, addPages, addPages]
      cases compileBundle config files order fragments first with
      | error e => rfl
      | ok bundle =>
          dsimp only
          cases settleCollision config.collisions cache first with
          | error e => rfl
          | ok replaced => exact ih _

theorem settleCollision_of_new {policy : CollisionPolicy} {cache : Cache}
    (h : cache.get? page.name = none) : settleCollision policy cache page = .ok [] := by
  rw [settleCollision, h]

/-- Pages of new and different names are added in the same way under both policies. -/
theorem addPages_of_distinct (policy policy' : CollisionPolicy) (distinct : Distinct pages) :
    ∀ {cache : Cache}, (∀ p ∈ pages, cache.get? p.name = none) →
      addPages (config.withCollisions policy) files order fragments cache pages =
        addPages (config.withCollisions policy') files order fragments cache pages := by
  induction pages with
  | nil => intro cache _; rfl
  | cons page rest ih =>
      intro cache hnew
      obtain ⟨hpage, hrest⟩ := List.pairwise_cons.mp distinct
      have hcompile : compileBundle (config.withCollisions policy) files order fragments page =
          compileBundle (config.withCollisions policy') files order fragments page := rfl
      have hfirst := hnew page List.mem_cons_self
      have hlater : ∀ bundle, ∀ p ∈ rest, (cache.insert page.name bundle).get? p.name = none := by
        intro bundle p hp
        rw [Dict.get?_insert, if_neg (hpage p hp).symm]
        exact hnew p (List.mem_cons_of_mem _ hp)
      unfold addPages
      simp only [hcompile, settleCollision_of_new hfirst, ih hrest (hlater _)]

theorem addPages_refused {cache : Cache} {bundle : Bundle} {e : BuildError}
    (hbundle : compileBundle config files order fragments page = .ok bundle)
    (hsettle : settleCollision config.collisions cache page = .error e) :
    (addPages config files order fragments cache (page :: after)).result = .error e := by
  rw [addPages, hbundle]
  simp only [hsettle]

/-- A page of a name that has come up before is refused, if all is well up to it. -/
theorem addPages_of_firstRepeat (h : FirstRepeat pages earlier later)
    (compiles : ∀ p ∈ pages, ∃ bundle, compileBundle config files order fragments p = .ok bundle) :
    (addPages (config.withCollisions .reject) files order fragments {} pages).result =
      .error (.collision later.name earlier.path later.path) := by
  obtain ⟨before, after, rfl, distinct, hearlier, hname⟩ := h
  have hpolicy : (config.withCollisions .overwrite).collisions = .overwrite := rfl
  obtain ⟨cache, hcache⟩ := @addPages_of_ok _ files order fragments hpolicy before {}
    fun p hp => compiles p (List.mem_append_left _ hp)
  -- The cache has the bundle of the earlier page under the name.
  have hget := addPages_get? hpolicy later.name hcache
  rw [← hname, distinct.lastNamed? hearlier] at hget
  obtain ⟨bundle, hbundle, hfound⟩ := hget
  have horigin : bundle.page = earlier.path := (compileBundle_origin hbundle).2
  have hsettle : settleCollision .reject cache later =
      .error (.collision later.name earlier.path later.path) := by
    rw [settleCollision, ← hname, hfound]
    simp only [horigin]
  obtain ⟨bundle', hbundle'⟩ := compiles later (by simp)
  have hlater : compileBundle (config.withCollisions .reject) files order fragments later =
      .ok bundle' := hbundle'
  have hrest : (addPages (config.withCollisions .reject) files order fragments cache
      (later :: after)).result = .error (.collision later.name earlier.path later.path) :=
    addPages_refused hlater hsettle
  rw [addPages_append, addPages_of_distinct .reject .overwrite distinct fun _ _ => rfl, hcache]
  exact hrest

/-- A build that overwrites fails at the first page whose bundle cannot be compiled. -/
theorem addPages_error {pages : List TemplateFile} {e : BuildError}
    (overwrite : config.collisions = .overwrite) : ∀ {cache : Cache},
    (addPages config files order fragments cache pages).result = .error e →
      ∃ before page after, pages = before ++ page :: after ∧
        (∀ p ∈ before, ∃ bundle, compileBundle config files order fragments p = .ok bundle) ∧
        compileBundle config files order fragments page = .error e := by
  induction pages with
  | nil => intro cache h; cases h
  | cons first rest ih =>
      intro cache h
      rw [addPages_cons overwrite] at h
      cases hfirst : compileBundle config files order fragments first with
      | error e' =>
          rw [hfirst] at h
          cases h
          exact ⟨[], first, rest, rfl, by simp, hfirst⟩
      | ok bundle =>
          rw [hfirst] at h
          obtain ⟨before, page, after, rfl, hbefore, hpage⟩ := ih h
          exact ⟨first :: before, page, after, rfl,
            List.forall_mem_cons.mpr ⟨⟨bundle, hfirst⟩, hbefore⟩, hpage⟩

theorem addPages_stop {cache cache' : Cache} {e : BuildError}
    (hbefore : (addPages config files order fragments cache before).result = .ok cache')
    (hpage : compileBundle config files order fragments page = .error e) :
    (addPages config files order fragments cache (before ++ page :: after)).result = .error e := by
  rw [addPages_append, hbefore]
  show (addPages config files order fragments cache' (page :: after)).result = .error e
  rw [addPages, hpage]

theorem addPages_of_error_before {cache : Cache} {e : BuildError}
    (hbefore : (addPages config files order fragments cache before).result = .error e) :
    (addPages config files order fragments cache (before ++ after)).result = .error e := by
  rw [addPages_append, hbefore]
  rfl

/-! ### What the refusing build comes to -/

theorem reject_of_distinct (distinct : Distinct pages) :
    (addPages (config.withCollisions .reject) files order fragments {} pages).result =
      (addPages (config.withCollisions .overwrite) files order fragments {} pages).result := by
  rw [addPages_of_distinct .reject .overwrite distinct fun _ _ => rfl]

/-- Where the overwriting build succeeds, the first name that comes up again is reported. -/
theorem reject_of_built {cache : Cache}
    (hbuilt : (addPages (config.withCollisions .overwrite) files order fragments {} pages).result =
      .ok cache) (hnot : ¬ Distinct pages) :
    ∃ earlier later, FirstRepeat pages earlier later ∧
      (addPages (config.withCollisions .reject) files order fragments {} pages).result =
        .error (.collision later.name earlier.path later.path) := by
  obtain ⟨earlier, later, hrepeat⟩ := exists_firstRepeat hnot
  have hcompiles := addPages_ok hbuilt
  exact ⟨earlier, later, hrepeat, addPages_of_firstRepeat hrepeat hcompiles⟩

/-- Where the overwriting build fails at a page, the refusing one fails there or at a name that has
come up again before. -/
theorem reject_of_failed (order' : TemplateOrder) {e : BuildError}
    (hfailed : (addPages (config.withCollisions .overwrite) files order fragments {} pages).result =
      .error e) :
    ∃ before page after, pages = before ++ page :: after ∧
      (∃ cache, (addPages (config.withCollisions .overwrite) files order fragments {}
        before).result = .ok cache) ∧
      (addPages (config.withCollisions .overwrite) files order fragments {}
        (before ++ [page])).result = .error e ∧
      (Distinct before → ∃ e',
        (addPages (config.withCollisions .reject) files order' fragments {} pages).result =
          .error e' ∧ e.Alike e' ∧
        (order.listed page.path = order'.listed page.path → e' = e)) ∧
      (¬ Distinct before → ∃ earlier later, FirstRepeat before earlier later ∧
        (addPages (config.withCollisions .reject) files order' fragments {} pages).result =
          .error (.collision later.name earlier.path later.path)) := by
  have hpolicy : (config.withCollisions .overwrite).collisions = .overwrite := rfl
  obtain ⟨before, page, after, rfl, hbefore, hpage⟩ := addPages_error hpolicy hfailed
  obtain ⟨e', hpage', halike⟩ := compileBundle_order_error order order' hpage
  obtain ⟨cache, hcache⟩ := @addPages_of_ok _ files order fragments hpolicy before {} hbefore
  have hcache' := (addPages_order order order' before {}).result.ok_iff.mp hcache
  refine ⟨before, page, after, rfl, ⟨cache, hcache⟩, addPages_of_error hpolicy hpage hbefore,
    fun distinct => ?_, fun hnot => ?_⟩
  · rw [← reject_of_distinct distinct] at hcache'
    exact ⟨e', addPages_stop hcache' hpage', halike⟩
  · obtain ⟨earlier, later, hrepeat, hcollision⟩ := reject_of_built hcache' hnot
    exact ⟨earlier, later, hrepeat, addPages_of_error_before hcollision⟩

end Policies

end Build

/-! ### The whole build -/

/--
**A build that refuses collisions, seen from the one that overwrites.**

Take two configurations that differ in nothing but the policy.  The refusing build succeeds exactly
if the overwriting one does and the pages have different base names, and then both give the same
bundles.  If the overwriting build succeeds and a base name comes up again, the refusing one reports
the first page with which that happens and the one page before it that has its name.  If the
overwriting build fails at some page, that is, the pages before it can be built and with it they
cannot, the refusing build fails with the same error, unless a base name has come up again before
that page; then it reports the first collision.

The two builds may list the templates of a bundle in different orders.  Then, if the bundle of the
page at which they fail has unresolved names in two of its templates, they may report different ones
of these.
-/
theorem rejecting_build (config : Config) (files : FileTree) (order order' : TemplateOrder)
    (fragments : List Source) (pages : List TemplateFile) :
    let build := fun policy order pages =>
      (Build.ofSources (config.withCollisions policy) files order pages fragments).result
    (∀ cache, build .reject order' pages = .ok cache ↔
      build .overwrite order pages = .ok cache ∧ Build.Distinct pages) ∧
    (∀ cache, build .overwrite order pages = .ok cache → ¬ Build.Distinct pages →
      ∃ earlier later, Build.FirstRepeat pages earlier later ∧
        build .reject order' pages =
          .error (.collision later.name earlier.path later.path)) ∧
    (∀ e, build .overwrite order pages = .error e →
      ∃ before page after, pages = before ++ page :: after ∧
        (∃ cache, build .overwrite order before = .ok cache) ∧
        build .overwrite order (before ++ [page]) = .error e ∧
        (Build.Distinct before → ∃ e', build .reject order' pages = .error e' ∧ e.Alike e' ∧
          (order.listed page.path = order'.listed page.path → e' = e)) ∧
        (¬ Build.Distinct before → ∃ earlier later, Build.FirstRepeat before earlier later ∧
          build .reject order' pages =
            .error (.collision later.name earlier.path later.path))) := by
  intro build
  have hresult : ∀ policy order pages, build policy order pages =
      (Build.addPages (config.withCollisions policy) files order fragments {} pages).result :=
    fun policy order pages => Build.ofSources_result pages
  have hok : ∀ cache, build .overwrite order pages = .ok cache ↔
      build .overwrite order' pages = .ok cache :=
    fun cache => (Build.ofSources_order order order' pages).result.ok_iff
  refine ⟨fun cache => ⟨fun hrejecting => ?_, fun ⟨hbuilt, distinct⟩ => ?_⟩,
    fun cache hbuilt => ?_, fun e hfailed => ?_⟩
  · rw [hresult] at hrejecting
    cases hoverwriting : build .overwrite order pages with
    | ok cache' =>
        rw [hok, hresult] at hoverwriting
        by_cases distinct : Build.Distinct pages
        · rw [Build.reject_of_distinct distinct, hoverwriting] at hrejecting
          exact ⟨hrejecting, distinct⟩
        · obtain ⟨_, _, -, hcollision⟩ := Build.reject_of_built hoverwriting distinct
          cases hrejecting.symm.trans hcollision
    | error e =>
        rw [hresult] at hoverwriting
        obtain ⟨before, _, _, -, -, -, hdistinct, hnot⟩ :=
          Build.reject_of_failed order' hoverwriting
        by_cases distinct : Build.Distinct before
        · obtain ⟨e', hfails, -⟩ := hdistinct distinct
          cases hrejecting.symm.trans hfails
        · obtain ⟨_, _, -, hcollision⟩ := hnot distinct
          cases hrejecting.symm.trans hcollision
  · rw [hok, hresult] at hbuilt
    rw [hresult, Build.reject_of_distinct distinct, hbuilt]
  · rw [hok, hresult] at hbuilt
    simp only [hresult]
    exact Build.reject_of_built hbuilt
  · simp only [hresult] at hfailed ⊢
    exact Build.reject_of_failed order' hfailed

end Folio
