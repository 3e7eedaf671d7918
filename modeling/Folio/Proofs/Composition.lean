/-
A build is put together from builds of one page each.

Where later pages take the place of earlier ones, a build of many pages compiles every page by
itself and then keeps, for each name, the last bundle.  So it can be read off the builds in which
one of the pages stands alone: it succeeds if all of these succeed, fails as the first of these
that fails, and gives the bundle of the last page of each name (`build_composed`).  A page that
is overwritten counts like any other.

The bundle of a page reads the page and the fragments and nothing else
(`compileBundle_congr`), so what a page renders to does not depend on the other pages.

Every one of these builds lists templates in an order of its own.  This concerns the failures alone,
which are the same up to the template that is reported (`compileBundle_order_error`).
-/
import Folio.Proofs.TemplateOrders

namespace Folio

namespace Build

variable {config : Config} {files files' : FileTree} {order : TemplateOrder}
  {fragments : List Source}

/-- The last page of a name. -/
def lastNamed? (name : String) (pages : List TemplateFile) : Option TemplateFile :=
  (pages.filter (·.name = name)).getLast?

section LastNamed

variable {name : String} {page : TemplateFile} {pages before after : List TemplateFile}

@[simp] theorem lastNamed?_nil : lastNamed? name [] = none := rfl

theorem lastNamed?_cons : lastNamed? name (page :: pages) =
    (lastNamed? name pages).or (if page.name = name then some page else none) := by
  unfold lastNamed?
  rw [List.filter_cons]
  by_cases h : page.name = name
  · rw [if_pos (decide_eq_true h), if_pos h, List.getLast?_cons]
    cases (pages.filter (·.name = name)).getLast? <;> rfl
  · rw [if_neg (by simpa using h), if_neg h, Option.or_none]

theorem lastNamed?_eq_some (h : lastNamed? name pages = some page) :
    page ∈ pages ∧ page.name = name := by
  have hmem := List.mem_of_getLast? h
  rw [List.mem_filter, decide_eq_true_eq] at hmem
  exact hmem

theorem lastNamed?_eq_none_iff : lastNamed? name pages = none ↔ ∀ p ∈ pages, p.name ≠ name := by
  unfold lastNamed?
  rw [List.getLast?_eq_none_iff, List.filter_eq_nil_iff]
  simp

end LastNamed

/-! ### One page -/

/-- A bundle reads its page and nothing else from the files. -/
theorem compileBundle_congr {page : TemplateFile}
    (h : files.readText page.path = files'.readText page.path) :
    compileBundle config files order fragments page =
      compileBundle config files' order fragments page := by
  unfold compileBundle readSource
  rw [h]

theorem compileBundle_origin {page : TemplateFile} {bundle : Bundle}
    (h : compileBundle config files order fragments page = .ok bundle) :
    bundle.name = page.name ∧ bundle.page = page.path := by
  obtain ⟨templates, text, t, -, -, -, -, rfl⟩ := compileBundle_eq_ok.mp h
  exact ⟨rfl, rfl⟩

theorem ofSources_single (page : TemplateFile) :
    (ofSources config files order [page] fragments).result =
      (compileBundle config files order fragments page).map
        fun bundle => Dict.insert {} page.name bundle := by
  unfold ofSources
  dsimp only
  rw [addPages]
  cases compileBundle config files order fragments page with
  | error e => rfl
  | ok bundle => rfl

/-! ### Page after page -/

section Overwrite

variable (overwrite : config.collisions = .overwrite)
include overwrite

/-- A page whose name is taken takes its place. -/
theorem addPages_cons {cache : Cache} {page : TemplateFile} {rest : List TemplateFile} :
    (addPages config files order fragments cache (page :: rest)).result =
      (compileBundle config files order fragments page).bind fun bundle =>
        (addPages config files order fragments (cache.insert page.name bundle) rest).result := by
  rw [addPages]
  cases compileBundle config files order fragments page with
  | error e => rfl
  | ok bundle =>
      dsimp only
      rw [settleCollision, overwrite]
      cases cache.get? page.name with
      | none => rfl
      | some existing => rfl

theorem addPages_of_ok {pages : List TemplateFile} : ∀ {cache : Cache},
    (∀ p ∈ pages, ∃ bundle, compileBundle config files order fragments p = .ok bundle) →
    ∃ cache', (addPages config files order fragments cache pages).result = .ok cache' := by
  induction pages with
  | nil => intro cache _; exact ⟨cache, rfl⟩
  | cons page rest ih =>
      intro cache h
      obtain ⟨bundle, hbundle⟩ := h page List.mem_cons_self
      rw [addPages_cons overwrite, hbundle]
      exact ih fun p hp => h p (List.mem_cons_of_mem _ hp)

theorem addPages_of_error {before after : List TemplateFile} {page : TemplateFile}
    {e : BuildError} (hpage : compileBundle config files order fragments page = .error e) :
    ∀ {cache : Cache},
      (∀ p ∈ before, ∃ bundle, compileBundle config files order fragments p = .ok bundle) →
      (addPages config files order fragments cache (before ++ page :: after)).result =
        .error e := by
  induction before with
  | nil =>
      intro cache _
      rw [List.nil_append, addPages_cons overwrite, hpage]
      rfl
  | cons first before ih =>
      intro cache h
      obtain ⟨bundle, hbundle⟩ := h first List.mem_cons_self
      rw [List.cons_append, addPages_cons overwrite, hbundle]
      exact ih fun p hp => h p (List.mem_cons_of_mem _ hp)

/-- A name leads to the bundle of its last page, or to what it led to before. -/
theorem addPages_get? {pages : List TemplateFile} (name : String) :
    ∀ {cache cache' : Cache},
      (addPages config files order fragments cache pages).result = .ok cache' →
      match lastNamed? name pages with
      | none => cache'.get? name = cache.get? name
      | some page => ∃ bundle, compileBundle config files order fragments page = .ok bundle ∧
          cache'.get? name = some bundle := by
  induction pages with
  | nil =>
      intro cache cache' h
      cases h
      rfl
  | cons page rest ih =>
      intro cache cache' h
      rw [addPages_cons overwrite] at h
      cases hbundle : compileBundle config files order fragments page with
      | error e =>
          rw [hbundle] at h
          cases h
      | ok bundle =>
          rw [hbundle] at h
          have hrest := ih h
          rw [lastNamed?_cons]
          cases hlast : lastNamed? name rest with
          | some later =>
              rw [hlast] at hrest
              exact hrest
          | none =>
              rw [hlast] at hrest
              simp only [Dict.get?_insert] at hrest
              by_cases hname : page.name = name
              · rw [if_pos hname]
                rw [if_pos hname.symm] at hrest
                exact ⟨bundle, hbundle, hrest⟩
              · rw [if_neg hname]
                rw [if_neg (Ne.symm hname)] at hrest
                exact hrest

end Overwrite

end Build

/-! ### The whole build -/

section Composed

variable (config : Config) (files : FileTree) (fragments : List Source)

/--
**A build is the composition of its builds of one page.**

Let later pages take the place of earlier ones.  A build succeeds exactly if the build of each of
its pages alone succeeds, with the same fragments.  It has, under each name that some page has,
the bundle which the build of the last such page alone has under it, and no other bundle.  Where a
build of one page fails, the first failure is that of the whole build.  And the bundle of a page,
with all that it answers to requests, is the same in any other build with these fragments, from
other files and with other pages around it, as long as the text of the page is the same.

All these builds may list the templates of a bundle in orders of their own.  Then the failure is
still at the same page; it is the same one unless the bundle of that page has unresolved names in
two of its templates and lists them in another order than when the page stands alone.
-/
theorem build_composed (pages : List TemplateFile) (overwrite : config.collisions = .overwrite)
    (order : TemplateOrder) (alone : TemplateFile → TemplateOrder) :
    let build := fun files order pages =>
      (Build.ofSources config files order pages fragments).result
    let single := fun p => build files (alone p) [p]
    ((∃ cache, build files order pages = .ok cache) ↔
      ∀ p ∈ pages, ∃ one, single p = .ok one) ∧
    (∀ cache, build files order pages = .ok cache → ∀ name,
      match Build.lastNamed? name pages with
      | none => cache.get? name = none
      | some p => ∃ one bundle, single p = .ok one ∧ one.get? name = some bundle ∧
          cache.get? name = some bundle) ∧
    (∀ before p after e, pages = before ++ p :: after →
      (∀ q ∈ before, ∃ one, single q = .ok one) → single p = .error e →
      ∃ e', build files order pages = .error e' ∧ e.Alike e' ∧
        ((alone p).listed p.path = order.listed p.path → e' = e)) ∧
    (∀ files' order' pages' cache cache' p, build files order pages = .ok cache →
      build files' order' pages' = .ok cache' → Build.lastNamed? p.name pages = some p →
      Build.lastNamed? p.name pages' = some p →
      files.readText p.path = files'.readText p.path →
      cache.get? p.name = cache'.get? p.name ∧
        ∀ (Request : Type) (tokens : TokenSource Request) (request : Request) (view : View),
          cache.page tokens request p.name view = cache'.page tokens request p.name view) := by
  intro build single
  have hone : ∀ p, single p =
      (Build.compileBundle config files (alone p) fragments p).map fun bundle =>
        Dict.insert {} p.name bundle :=
    fun p => Build.ofSources_single p
  have hsingle : ∀ p, (∃ one, single p = .ok one) ↔
      ∃ bundle, Build.compileBundle config files order fragments p = .ok bundle := by
    intro p
    rw [hone]
    simp only [map_eq_ok, (Build.compileBundle_order (alone p) order).ok_iff]
    constructor
    · rintro ⟨_, bundle, hbundle, -⟩
      exact ⟨bundle, hbundle⟩
    · rintro ⟨bundle, hbundle⟩
      exact ⟨_, bundle, hbundle, rfl⟩
  have hget : ∀ {files order pages cache}, build files order pages = .ok cache → ∀ name,
      match Build.lastNamed? name pages with
      | none => cache.get? name = none
      | some p => ∃ bundle, Build.compileBundle config files order fragments p = .ok bundle ∧
          cache.get? name = some bundle := by
    intro files order pages cache h name
    simp only [build, Build.ofSources_result] at h
    exact Build.addPages_get? overwrite name h
  refine ⟨?_, ?_, ?_, ?_⟩
  · simp only [hsingle]
    simp only [build, Build.ofSources_result]
    constructor
    · rintro ⟨cache, h⟩
      exact Build.addPages_ok h
    · exact Build.addPages_of_ok overwrite
  · intro cache h name
    have hname := hget h name
    cases hlast : Build.lastNamed? name pages with
    | none =>
        rw [hlast] at hname
        exact hname
    | some p =>
        rw [hlast] at hname
        obtain ⟨bundle, hbundle, hfound⟩ := hname
        obtain ⟨-, rfl⟩ := Build.lastNamed?_eq_some hlast
        refine ⟨Dict.insert {} p.name bundle, bundle, ?_, by simp, hfound⟩
        rw [hone, (Build.compileBundle_order (alone p) order).ok_iff.mpr hbundle]
        rfl
  · rintro before p after e rfl hbefore hp
    have hpage : Build.compileBundle config files (alone p) fragments p = .error e := by
      rw [hone] at hp
      cases hbundle : Build.compileBundle config files (alone p) fragments p with
      | ok bundle => rw [hbundle] at hp; cases hp
      | error e' => rw [hbundle] at hp; cases hp; rfl
    obtain ⟨e', hpage', halike⟩ := Build.compileBundle_order_error _ order hpage
    have hfails : build files order (before ++ p :: after) = .error e' := by
      simp only [build, Build.ofSources_result]
      exact Build.addPages_of_error overwrite hpage' fun q hq => (hsingle q).mp (hbefore q hq)
    exact ⟨e', hfails, halike⟩
  · intro files' order' pages' cache cache' p h h' hlast hlast' htext
    have hsame : cache.get? p.name = cache'.get? p.name := by
      have hname := hget h p.name
      have hname' := hget h' p.name
      rw [hlast] at hname
      rw [hlast'] at hname'
      obtain ⟨bundle, hbundle, hfound⟩ := hname
      obtain ⟨bundle', hbundle', hfound'⟩ := hname'
      rw [Build.compileBundle_congr htext,
        (Build.compileBundle_order order order').ok_iff, hbundle'] at hbundle
      cases hbundle
      rw [hfound, hfound']
    refine ⟨hsame, fun Request tokens request view => ?_⟩
    unfold Cache.page
    rw [hsame]

end Composed

/-! ### Two pages of one name -/

/-- A site with two pages of one name, one of them in a directory that is listed late. -/
def twoHomes (a b : String) : FileTree :=
  .dir [("pages", .dir [("b", .dir [("home.html", .file b.toUTF8)]),
    ("a", .dir [("home.html", .file a.toUTF8)])]), ("fragments", .dir [])]

theorem twoHomes_readBytes (a b : String) :
    (twoHomes a b).readBytes ⟨"pages/a/home.html"⟩ = .ok a.toUTF8 ∧
      (twoHomes a b).readBytes ⟨"pages/b/home.html"⟩ = .ok b.toUTF8 :=
  ⟨rfl, rfl⟩

theorem Build.compileBundle_plain {config : Config} {files : FileTree} {order : TemplateOrder}
    {page : TemplateFile} {text : String} (hbytes : files.readBytes page.path = .ok text.toUTF8)
    (hparse : (Template.parse text).toOption.isSome = true)
    (hcalls : Template.calledNames text = []) :
    ∃ bundle, compileBundle config files order [] page = .ok bundle := by
  obtain ⟨body, hbody⟩ := Option.isSome_iff_exists.mp hparse
  have hbody' : Template.parse text = .ok body := by
    cases hp : Template.parse text with
    | error e => rw [hp] at hbody; cases hbody
    | ok body' => rw [hp] at hbody; cases hbody; rfl
  obtain ⟨t, ht⟩ := compile_of_parse page.name hbody'
  exact compileBundle_alone (FileTree.readText_of_readBytes hbytes) ht
    fun n hn => by simp [hcalls, mem_freeCalls ht] at hn

/-- Of two pages of one name the build has the last one, whichever its order is. -/
theorem build_composed_homes :
    let first : TemplateFile := ⟨"home.html", "a/home.html", ⟨"pages/a/home.html"⟩⟩
    let last : TemplateFile := ⟨"home.html", "b/home.html", ⟨"pages/b/home.html"⟩⟩
    ({} : Config).collisions = .overwrite ∧
      ∀ order, ∃ cache,
        (Build.ofSources {} (twoHomes "one" "two") order [first, last] []).result = .ok cache ∧
        (cache.get? "home.html").map Bundle.page = some ⟨"pages/b/home.html"⟩ := by
  intro first last
  refine ⟨rfl, fun order => ?_⟩
  obtain ⟨hread, hread'⟩ := twoHomes_readBytes "one" "two"
  obtain ⟨hok, hget, -⟩ :=
    build_composed {} (twoHomes "one" "two") [] [first, last] rfl order fun _ => order
  obtain ⟨one, hone⟩ := @Build.compileBundle_plain {} _ order first "one" hread
    (by decide +kernel) (by decide +kernel)
  obtain ⟨two, htwo⟩ := @Build.compileBundle_plain {} _ order last "two" hread'
    (by decide +kernel) (by decide +kernel)
  obtain ⟨cache, hcache⟩ := hok.mpr (by
    intro p hp
    simp only [Build.ofSources_single]
    rcases List.mem_cons.mp hp with rfl | hp
    · exact ⟨_, by rw [hone]; rfl⟩
    · cases List.mem_singleton.mp hp
      exact ⟨_, by rw [htwo]; rfl⟩)
  have hhome := hget cache hcache "home.html"
  have hlast : Build.lastNamed? "home.html" [first, last] = some last := rfl
  rw [hlast] at hhome
  obtain ⟨alone, bundle, halone, hbundle, hfound⟩ := hhome
  simp only [Build.ofSources_single, htwo] at halone
  cases halone
  have heq : two = bundle := by simpa [last] using hbundle
  refine ⟨cache, hcache, ?_⟩
  rw [hfound, ← heq, Option.map_some, (Build.compileBundle_origin htwo).2]

end Folio
