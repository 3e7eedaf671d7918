/-
How many templates a bundle is reported to have.

When a bundle is compiled a build reports a number of templates: one for each fragment and one for
the page.  The bundle has just as many if the fragments have different names and none of them is
called like the page (`length_templateNames`).  A page that hides a fragment takes its place, though,
and then the number that is reported is too large by one (`logged_count`, `overcounted`).
-/
import Folio.Proofs.BuildLog
import Folio.Proofs.NewFragment

namespace Folio

namespace Build

variable {config : Config} {files : FileTree} {order : TemplateOrder} {fragments : List Source}
  {page : TemplateFile} {bundle : Bundle}

/-- The page is called like one of the fragments. -/
def Hides (fragments : List Source) (name : String) : Prop :=
  ∃ f ∈ fragments, f.file.relativeName = name

instance (fragments : List Source) (name : String) : Decidable (Hides fragments name) :=
  inferInstanceAs (Decidable (∃ f ∈ fragments, f.file.relativeName = name))

/-! ### Counting templates -/

theorem size_compileFragments {path : Path} : ∀ {templates templates' : Dict Template},
    compileFragments path templates fragments = .ok templates' →
    (fragments.Pairwise fun f g => f.file.relativeName ≠ g.file.relativeName) →
    (∀ f ∈ fragments, templates.get? f.file.relativeName = none) →
    templates'.size = templates.size + fragments.length := by
  induction fragments with
  | nil =>
      intro templates templates' h _ _
      cases h
      rfl
  | cons f rest ih =>
      intro templates templates' h distinct hnew
      rw [compileFragments, bind_eq_ok] at h
      obtain ⟨t, -, hrest⟩ := h
      obtain ⟨hf, hdistinct⟩ := List.pairwise_cons.mp distinct
      have hlater : ∀ g ∈ rest,
          (templates.insert f.file.relativeName t).get? g.file.relativeName = none := by
        intro g hg
        rw [Dict.get?_insert, if_neg (hf g hg).symm]
        exact hnew g (List.mem_cons_of_mem _ hg)
      rw [ih hrest hdistinct hlater, Dict.size_insert, if_pos (hnew f List.mem_cons_self),
        List.length_cons]
      omega

/-- Whoever looks for a template finds one exactly if a fragment has the name. -/
theorem get?_compileFragments {path : Path} {name : String} {templates : Dict Template}
    (h : compileFragments path {} fragments = .ok templates)
    (distinct : fragments.Pairwise fun f g => f.file.relativeName ≠ g.file.relativeName) :
    templates.get? name = none ↔ ¬ Hides fragments name := by
  constructor
  · rintro hnone ⟨⟨file, source⟩, hf, rfl⟩
    obtain ⟨before, after, rfl⟩ := List.append_of_mem hf
    have hafter := (List.pairwise_cons.mp (List.pairwise_append.mp distinct).2.1).1
    obtain ⟨t, -, hget⟩ := compileFragments_get? h fun g hg => (hafter g hg).symm
    rw [hnone] at hget
    cases hget
  · intro hnot
    rw [compileFragments_frame h fun f hf hname => hnot ⟨f, hf, hname⟩]
    rfl

/-- **A bundle has the fragments and the page**, unless the page takes the place of one of them. -/
theorem length_templateNames
    (distinct : fragments.Pairwise fun f g => f.file.relativeName ≠ g.file.relativeName)
    (h : compileBundle config files order fragments page = .ok bundle) :
    fragments.length + 1 =
      bundle.templateNames.length + if Hides fragments page.name then 1 else 0 := by
  obtain ⟨templates, text, t, htemplates, -, -, -, rfl⟩ := compileBundle_eq_ok.mp h
  have hlength : (templates.insert page.name t).keys.length =
      (templates.insert page.name t).size := List.length_map _
  have hsize := size_compileFragments htemplates distinct fun _ _ => rfl
  have hbound : templates.get? page.name = none ↔ ¬ Hides fragments page.name :=
    get?_compileFragments htemplates distinct
  have hempty : Dict.size ({} : Dict Template) = 0 := rfl
  show fragments.length + 1 = (templates.insert page.name t).keys.length + _
  rw [hlength, Dict.size_insert, hsize, hempty, Nat.zero_add]
  by_cases hhides : Hides fragments page.name
  · rw [if_pos hhides, if_neg fun hnone => hbound.mp hnone hhides]
  · rw [if_neg hhides, if_pos (hbound.mpr hhides)]

/-! ### What is reported -/

section Compiled

variable {pages earlier : List TemplateFile} {n : Nat}

theorem not_mem_replacement {name : String} {path : Path} {count : Nat} :
    .bundleCompiled name path count ∉ replacement earlier page := by
  unfold replacement
  cases lastNamed? page.name earlier with
  | none => exact List.not_mem_nil
  | some replaced => simp

/-- Of every page it is reported that its bundle is compiled, and of nothing else. -/
theorem mem_pageEvents {name : String} {path : Path} {count : Nat} :
    .bundleCompiled name path count ∈ pageEvents n earlier pages ↔
      count = n + 1 ∧ ∃ p ∈ pages, p.name = name ∧ p.path = path := by
  induction pages generalizing earlier with
  | nil => simp [pageEvents]
  | cons first rest ih =>
      rw [pageEvents, List.mem_cons, List.mem_append, ih, List.exists_mem_cons_iff]
      simp only [not_mem_replacement, false_or, Event.bundleCompiled.injEq]
      constructor
      · rintro (⟨rfl, rfl, rfl⟩ | ⟨rfl, hlater⟩)
        · exact ⟨rfl, .inl ⟨rfl, rfl⟩⟩
        · exact ⟨rfl, .inr hlater⟩
      · rintro ⟨rfl, ⟨rfl, rfl⟩ | hlater⟩
        · exact .inl ⟨rfl, rfl, rfl⟩
        · exact .inr ⟨rfl, hlater⟩

/-- What is reported to be compiled is the bundle of a page that has been compiled. -/
theorem mem_addPages_log {name : String} {path : Path} {count : Nat}
    (h : .bundleCompiled name path count ∈ (addPages config files order fragments {} pages).log) :
    count = fragments.length + 1 ∧ ∃ p ∈ pages, p.name = name ∧ p.path = path ∧
      ∃ bundle, compileBundle config files order fragments p = .ok bundle := by
  cases hresult : (addPages config files order fragments {} pages).result with
  | ok cache =>
      rw [(added_of_ok hresult).events, mem_pageEvents] at h
      obtain ⟨hcount, p, hp, hname, hpath⟩ := h
      exact ⟨hcount, p, hp, hname, hpath, addPages_ok hresult p hp⟩
  | error e =>
      have hstopped := stopped_of_error hresult
      generalize (addPages config files order fragments {} pages).log = log at h hstopped
      cases hstopped with
      | uncompiled split first fails =>
          obtain ⟨hcount, p, hp, hname, hpath⟩ := mem_pageEvents.mp h
          rw [split]
          exact ⟨hcount, p, List.mem_append_left _ hp, hname, hpath, first p hp⟩
      | refused split first compiles policy meets error =>
          rw [split]
          rcases List.mem_append.mp h with h | h
          · obtain ⟨hcount, p, hp, hname, hpath⟩ := mem_pageEvents.mp h
            exact ⟨hcount, p, List.mem_append_left _ hp, hname, hpath, first p hp⟩
          · cases List.mem_singleton.mp h
            exact ⟨rfl, _, List.mem_append_right _ List.mem_cons_self, rfl, rfl, _, compiles⟩

theorem mem_ofSources_log {name : String} {path : Path} {count : Nat} :
    .bundleCompiled name path count ∈ (ofSources config files order pages fragments).log ↔
      .bundleCompiled name path count ∈ (addPages config files order fragments {} pages).log := by
  have hregistered : .bundleCompiled name path count ∉
      config.functions.names.map Event.functionRegistered := by
    simp
  unfold ofSources
  dsimp only
  cases (addPages config files order fragments {} pages).result with
  | error e => simp [hregistered]
  | ok cache => simp [hregistered]

end Compiled

end Build

/--
**The number of templates that is reported, and the number that is there.**

Let a site be built from fragments of different names, under any settings and however the build ends.
Whenever it reports that a bundle is compiled this is the bundle of one of its pages, and the number
that is reported with it is the number of its templates, except that it is one more if one of the
fragments is called like the page.  A build that succeeds reports so of every page.
-/
theorem logged_count {config : Config} {files : FileTree} {order : TemplateOrder}
    {fragments : List Source}
    (distinct : fragments.Pairwise fun f g => f.file.relativeName ≠ g.file.relativeName)
    (pages : List TemplateFile) :
    (∀ name path count,
      .bundleCompiled name path count ∈ (Build.ofSources config files order pages fragments).log →
      ∃ page ∈ pages, page.name = name ∧ page.path = path ∧
        ∃ bundle, Build.compileBundle config files order fragments page = .ok bundle ∧
          count = bundle.templateNames.length + if Build.Hides fragments name then 1 else 0) ∧
    ∀ cache, (Build.ofSources config files order pages fragments).result = .ok cache →
      ∀ page ∈ pages, ∃ count, .bundleCompiled page.name page.path count ∈
        (Build.ofSources config files order pages fragments).log := by
  refine ⟨fun name path count hevent => ?_, fun cache hbuilt page hpage => ?_⟩
  · obtain ⟨rfl, page, hpage, rfl, rfl, bundle, hbundle⟩ :=
      Build.mem_addPages_log (Build.mem_ofSources_log.mp hevent)
    exact ⟨page, hpage, rfl, rfl, bundle, hbundle, Build.length_templateNames distinct hbundle⟩
  · rw [Build.ofSources_result] at hbuilt
    refine ⟨fragments.length + 1, Build.mem_ofSources_log.mpr ?_⟩
    rw [(Build.added_of_ok hbuilt).events, Build.mem_pageEvents]
    exact ⟨rfl, page, hpage, rfl, rfl⟩

/-- Of a page that hides a fragment and of one that hides none the same number is reported. -/
theorem logged_count_pages :
    let page : String → TemplateFile := fun name => ⟨name, name, ⟨name⟩⟩
    let fragments : List Source := [⟨page "nav.html", "menu"⟩, ⟨page "home.html", "hidden"⟩]
    let log :=
      (Build.ofSources {} twoPages .byName [page "about.html", page "home.html"] fragments).log
    (fragments.Pairwise fun f g => f.file.relativeName ≠ g.file.relativeName) ∧
      ∃ about home,
        Build.compileBundle {} twoPages .byName fragments (page "about.html") = .ok about ∧
        .bundleCompiled "about.html" ⟨"about.html"⟩ about.templateNames.length ∈ log ∧
        Build.compileBundle {} twoPages .byName fragments (page "home.html") = .ok home ∧
        .bundleCompiled "home.html" ⟨"home.html"⟩ (home.templateNames.length + 1) ∈ log := by
  intro page fragments log
  have hdistinct : fragments.Pairwise fun f g => f.file.relativeName ≠ g.file.relativeName := by
    decide
  have hbuilds : (Build.ofSources {} twoPages .byName
      [page "about.html", page "home.html"] fragments).result.toOption.isSome = true := by
    decide +kernel
  obtain ⟨cache, hcache⟩ := Option.isSome_iff_exists.mp hbuilds
  obtain ⟨hcounts, hall⟩ :=
    @logged_count {} twoPages .byName fragments hdistinct [page "about.html", page "home.html"]
  have hreported : ∀ p ∈ [page "about.html", page "home.html"], ∃ bundle,
      Build.compileBundle {} twoPages .byName fragments p = .ok bundle ∧
      .bundleCompiled p.name p.path
        (bundle.templateNames.length + if Build.Hides fragments p.name then 1 else 0) ∈ log := by
    intro p hp
    obtain ⟨count, hevent⟩ := hall cache (toOption_eq_some.mp hcache) p hp
    obtain ⟨q, hq, hname, -, bundle, hbundle, rfl⟩ := hcounts _ _ _ hevent
    -- Different pages have different names here.
    have hsame : ∀ p ∈ [page "about.html", page "home.html"],
        ∀ q ∈ [page "about.html", page "home.html"], q.name = p.name → q = p := by
      decide
    rw [hsame p hp q hq hname] at hbundle
    exact ⟨bundle, hbundle, hevent⟩
  obtain ⟨about, habout, haboutEvent⟩ := hreported (page "about.html") (by simp)
  obtain ⟨home, hhome, hhomeEvent⟩ := hreported (page "home.html") (by simp)
  have haboutHides : ¬ Build.Hides fragments "about.html" := by decide
  have hhomeHides : Build.Hides fragments "home.html" := by decide
  rw [if_neg haboutHides] at haboutEvent
  rw [if_pos hhomeHides] at hhomeEvent
  exact ⟨hdistinct, about, home, habout, haboutEvent, hhome, hhomeEvent⟩

/-- A page that hides the only fragment is reported to be one of two templates, in any order. -/
theorem overcounted :
    let files : FileTree := .dir [("pages", .dir [("home.html", .file "home".toUTF8)]),
      ("fragments", .dir [("home.html", .file "hidden".toUTF8)])]
    let page : TemplateFile := ⟨"home.html", "home.html", ⟨"pages/home.html"⟩⟩
    let fragment : TemplateFile := ⟨"home.html", "home.html", ⟨"fragments/home.html"⟩⟩
    Build.sources (onePageConfig .standard) files = .ok ([page], [⟨fragment, "hidden"⟩]) ∧
      ∀ order, ∃ cache bundle,
        (buildSite (onePageConfig .standard) files order).result = .ok cache ∧
        cache.get? "home.html" = some bundle ∧ bundle.templateNames = ["home.html"] ∧
        .bundleCompiled "home.html" ⟨"pages/home.html"⟩ 2 ∈
          (buildSite (onePageConfig .standard) files order).log := by
  intro files page fragment
  have hsources : (Build.sources (onePageConfig .standard) files).toOption =
      some ([page], [⟨fragment, "hidden"⟩]) := by
    decide +kernel
  have hbuilt : ((buildSite (onePageConfig .standard) files .byName).result.toOption.bind
      (·.get? "home.html")).map Bundle.templateNames = some ["home.html"] := by
    decide +kernel
  obtain ⟨bundle, hbundle, hnames⟩ := Option.map_eq_some_iff.mp hbuilt
  obtain ⟨cache, hcache, hget⟩ := Option.bind_eq_some_iff.mp hbundle
  have hcache := toOption_eq_some.mp hcache
  refine ⟨toOption_eq_some.mp hsources, fun order => ⟨cache, bundle, ?_⟩⟩
  rw [buildSite_order_of_ok order hcache]
  exact ⟨hcache, hget, hnames, by decide +kernel⟩

end Folio
