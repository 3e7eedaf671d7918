/-
One fragment more.

A site that has been built is built still with a further fragment, provided that the fragment
compiles, calls nothing that is unresolved, and is the only one of its name.  Every bundle gains the
fragment and changes in nothing else; only where the page is called like it the page hides it, and
that bundle stays as it was (`fragment_added`).

Fragments of different names are compiled in any order to the same templates, so it makes no
difference where among the others the new one stands (`compileFragments_added`).  The page is
compiled last: under another name it stands beside the fragment, under the same one in its place
(`compileBundle_added`).  The step from one bundle to a site is that of `addPages_map`.
-/
import Folio.Proofs.Bundles
import Folio.Proofs.Maps
import Folio.Proofs.NameCheck

namespace Folio

open Template

/-! ### What a bundle gains -/

namespace Bundle

variable {b b' : Bundle} {name text : String} {t : Template}

/-- The sources of the templates in a bundle, by name. -/
def sources (b : Bundle) : Dict String := b.env.templates.map Template.source

/-- The bundle with one fragment more, unless its page hides the fragment. -/
def withFragment (name : String) (t : Template) (b : Bundle) : Bundle :=
  if b.name = name then b
  else { b with env := { b.env with templates := b.env.templates.insert name t } }

/-- The second bundle is the first one with one fragment more, and differs in nothing else. -/
structure Gains (fragment text : String) (b b' : Bundle) : Prop where
  name : b'.name = b.name
  page : b'.page = b.page
  mode : b'.env.mode = b.env.mode
  functions : b'.env.functions = b.env.functions
  /-- The fragment is new, unless the page has its name. -/
  isNew : b.name ≠ fragment → fragment ∉ b.templateNames
  /-- The page hides a fragment of its name; otherwise the fragment is there with its text. -/
  sources : b'.sources = if b.name = fragment then b.sources else b.sources.insert fragment text

theorem withFragment_page : (b.withFragment name t).page = b.page := by
  unfold withFragment
  by_cases hname : b.name = name
  · rw [if_pos hname]
  · rw [if_neg hname]

theorem withFragment_gains (htext : t.source = text)
    (hnew : b.name ≠ name → name ∉ b.templateNames) : b.Gains name text (b.withFragment name t) := by
  unfold withFragment
  by_cases hname : b.name = name
  · rw [if_pos hname]
    exact ⟨rfl, rfl, rfl, rfl, hnew, (if_pos hname).symm⟩
  · rw [if_neg hname]
    refine ⟨rfl, rfl, rfl, rfl, hnew, ?_⟩
    rw [if_neg hname, ← htext]
    exact Dict.map_insert

end Bundle

theorem Template.source_of_compile {name text : String} {t : Template}
    (h : Template.compile name text = .ok t) : t.source = text := by
  unfold Template.compile at h
  split at h
  · cases h
    rfl
  · cases h

/-! ### Compiling with one fragment more -/

namespace Build

variable {config : Config} {files files' : FileTree} {order order' : TemplateOrder}
  {before after : List Source} {f : Source} {t : Template} {page : TemplateFile} {bundle : Bundle}

/-- A template of another name may as well be there before the fragments are compiled. -/
theorem compileFragments_insert {path : Path} {name : String} {fragments : List Source} :
    ∀ {templates templates' : Dict Template},
      compileFragments path templates fragments = .ok templates' →
      (∀ g ∈ fragments, g.file.relativeName ≠ name) →
      compileFragments path (templates.insert name t) fragments =
        .ok (templates'.insert name t) := by
  induction fragments with
  | nil =>
      intro templates templates' h _
      cases h
      rfl
  | cons g rest ih =>
      intro templates templates' h hnew
      rw [compileFragments, bind_eq_ok] at h ⊢
      obtain ⟨u, hu, hrest⟩ := h
      have hne : name ≠ g.file.relativeName := (hnew g List.mem_cons_self).symm
      refine ⟨u, hu, ?_⟩
      rw [Dict.insert_comm hne]
      exact ih hrest fun g' hg' => hnew g' (List.mem_cons_of_mem _ hg')

/-- **A fragment of a new name may stand anywhere among the others.** -/
theorem compileFragments_added {path : Path}
    (compiles : Template.compile f.file.relativeName f.text = .ok t)
    (isNew : ∀ g ∈ after, g.file.relativeName ≠ f.file.relativeName) :
    ∀ {templates templates' : Dict Template},
      compileFragments path templates (before ++ after) = .ok templates' →
      compileFragments path templates (before ++ f :: after) =
        .ok (templates'.insert f.file.relativeName t) := by
  induction before with
  | nil =>
      intro templates templates' h
      rw [List.nil_append, compileFragments, bind_eq_ok]
      exact ⟨t, compileTemplate_eq_ok.mpr compiles, compileFragments_insert h isNew⟩
  | cons g before ih =>
      intro templates templates' h
      rw [List.cons_append, compileFragments, bind_eq_ok] at h ⊢
      obtain ⟨u, hu, hrest⟩ := h
      exact ⟨u, hu, ih hrest⟩

theorem not_mem_templateNames {fragments : List Source} {name : String}
    (h : compileBundle config files order fragments page = .ok bundle) (hname : bundle.name ≠ name)
    (hnew : ∀ g ∈ fragments, g.file.relativeName ≠ name) : name ∉ bundle.templateNames := by
  obtain ⟨templates, text, u, htemplates, -, -, -, rfl⟩ := compileBundle_eq_ok.mp h
  have hnone : (templates.insert page.name u).get? name = none := by
    rw [Dict.get?_insert, if_neg (Ne.symm hname), compileFragments_frame htemplates hnew]
    rfl
  intro hmem
  obtain ⟨v, hv⟩ := Dict.mem_keys.mp hmem
  rw [hnone] at hv
  cases hv

/-- **The bundle of a page is compiled with a fragment more, too.** -/
theorem compileBundle_added (compiles : Template.compile f.file.relativeName f.text = .ok t)
    (resolved : ∀ n, ¬ Unresolved config.functions t n)
    (isNew : ∀ g ∈ before ++ after, g.file.relativeName ≠ f.file.relativeName)
    (same : files.readText page.path = files'.readText page.path)
    (h : compileBundle config files order (before ++ after) page = .ok bundle) :
    compileBundle config files' order' (before ++ f :: after) page =
      .ok (bundle.withFragment f.file.relativeName t) := by
  obtain ⟨templates, text, u, htemplates, htext, hu, hchecked, rfl⟩ := compileBundle_eq_ok.mp h
  have hadded := @compileFragments_added before after f t page.path compiles
    (fun g hg => isNew g (List.mem_append_right _ hg)) {} templates htemplates
  rw [same] at htext
  have hresolved : unresolved config.functions t = [] :=
    List.eq_nil_iff_forall_not_mem.mpr fun n hn => resolved n (mem_unresolved_iff.mp hn)
  refine compileBundle_eq_ok.mpr ⟨_, text, u, hadded, htext, hu, ?_⟩
  unfold Bundle.withFragment
  by_cases hname : page.name = f.file.relativeName
  · -- The page takes the place of the fragment.
    have hsame : (templates.insert f.file.relativeName t).insert page.name u =
        templates.insert page.name u := by
      rw [hname, Dict.insert_insert]
    rw [hsame, if_pos hname]
    exact ⟨hchecked, rfl⟩
  · have hsame : (templates.insert f.file.relativeName t).insert page.name u =
        (templates.insert page.name u).insert f.file.relativeName t :=
      Dict.insert_comm (Ne.symm hname)
    rw [hsame, if_neg hname]
    exact ⟨Dict.forall_insert (unresolved config.functions · = []) hresolved hchecked, rfl⟩

end Build

/--
**A fragment that is added changes nothing else.**

Let a site be built from some pages and fragments, under any settings.  Put a further fragment
anywhere among the others, one that compiles, calls nothing that is unresolved, and has a name that
no other fragment has.  The site is built again, whatever the order in which the bundles list their
templates, and also if anything else in the files is changed but the texts of the pages.  There are
bundles under the same names, and each of them has the same page and the same settings as before.
It has all templates that it had, with the same sources, and the fragment with its text in addition;
but if the page is called like the fragment, the sources in its bundle are just the same as before.
-/
theorem fragment_added {config : Config} {files files' : FileTree} {order : TemplateOrder}
    {pages : List TemplateFile} {before after : List Source} {f : Source} {t : Template}
    {cache : Cache}
    (built : (Build.ofSources config files order pages (before ++ after)).result = .ok cache)
    (compiles : Template.compile f.file.relativeName f.text = .ok t)
    (resolved : ∀ n, ¬ Build.Unresolved config.functions t n)
    (isNew : ∀ g ∈ before ++ after, g.file.relativeName ≠ f.file.relativeName)
    (same : ∀ p ∈ pages, files.readText p.path = files'.readText p.path) :
    ∃ cache', (∀ order',
        (Build.ofSources config files' order' pages (before ++ f :: after)).result = .ok cache') ∧
      cache'.names = cache.names ∧
      ∀ key bundle, cache.get? key = some bundle →
        ∃ bundle', cache'.get? key = some bundle' ∧
          bundle.Gains f.file.relativeName f.text bundle' := by
  rw [Build.ofSources_result] at built
  have hchange : ∀ order', ∀ p ∈ pages, ∀ bundle,
      Build.compileBundle config files order (before ++ after) p = .ok bundle →
      Build.compileBundle config files' order' (before ++ f :: after) p =
        .ok (bundle.withFragment f.file.relativeName t) :=
    fun _ p hp _ => Build.compileBundle_added compiles resolved isNew (same p hp)
  have hadded : ∀ order',
      (Build.addPages config files' order' (before ++ f :: after) {} pages).result =
        .ok (cache.map (·.withFragment f.file.relativeName t)) :=
    fun order' => Build.addPages_map (fun _ => Bundle.withFragment_page) rfl (hchange order') built
  refine ⟨_, fun order' => (Build.ofSources_result pages).trans (hadded order'), Dict.keys_map,
    fun key bundle hget => ?_⟩
  refine ⟨_, by rw [Dict.get?_map, hget]; rfl, ?_⟩
  -- The bundle was compiled for one of the pages, so there is only one way it can have the name.
  rcases Build.addPages_origin built hget with hnone | ⟨page, -, -, hbundle⟩
  · cases hnone
  · exact Bundle.withFragment_gains (Template.source_of_compile compiles) fun hname =>
      Build.not_mem_templateNames hbundle hname isNew

/-! ### A fragment that is called like a page -/

/-- Two pages, one of which includes a fragment. -/
def twoPages : FileTree :=
  .dir [("about.html", .file "\x7b% include 'nav.html' %\x7d".toUTF8),
    ("home.html", .file "home".toUTF8)]

/-- One page hides the new fragment, and the other one gains it. -/
theorem fragment_added_hidden :
    let page : String → TemplateFile := fun name => ⟨name, name, ⟨name⟩⟩
    let build := fun fragments =>
      (Build.ofSources {} twoPages .byName [page "about.html", page "home.html"] fragments).result
    let nav : Source := ⟨page "nav.html", "menu"⟩
    let foot : Source := ⟨page "foot.html", "end"⟩
    let hidden : Source := ⟨page "home.html", "\x7b\x7b coalesce(x, 1) \x7d\x7d"⟩
    ∃ cache cache' about about' home home',
      build [nav, foot] = .ok cache ∧ build [nav, hidden, foot] = .ok cache' ∧
      cache'.names = cache.names ∧
      cache.get? "about.html" = some about ∧ cache'.get? "about.html" = some about' ∧
      about'.sources = about.sources.insert "home.html" hidden.text ∧
      cache.get? "home.html" = some home ∧ cache'.get? "home.html" = some home' ∧
      home'.sources = home.sources := by
  intro page build nav foot hidden
  have hbuilds : (build [nav, foot]).toOption.map (fun cache =>
      ((cache.get? "about.html").map Bundle.name, (cache.get? "home.html").map Bundle.name)) =
      some (some "about.html", some "home.html") := by
    decide +kernel
  have hresolves : (Template.compile "home.html" hidden.text).toOption.map
      (Build.unresolved .standard) = some [] := by
    decide +kernel
  obtain ⟨cache, hcache, hnames⟩ := Option.map_eq_some_iff.mp hbuilds
  obtain ⟨habout, hhome⟩ := Prod.mk.inj hnames
  obtain ⟨about, habout, haboutName⟩ := Option.map_eq_some_iff.mp habout
  obtain ⟨home, hhome, hhomeName⟩ := Option.map_eq_some_iff.mp hhome
  obtain ⟨t, ht, hnone⟩ := Option.map_eq_some_iff.mp hresolves
  have hbuilt := toOption_eq_some.mp hcache
  have hresolved : ∀ n, ¬ Build.Unresolved .standard t n := by
    intro n hn
    rw [← Build.mem_unresolved_iff, hnone] at hn
    cases hn
  obtain ⟨cache', hcache', hsame, hgains⟩ :=
    @fragment_added {} twoPages twoPages .byName [page "about.html", page "home.html"] [nav] [foot]
      hidden t cache hbuilt (toOption_eq_some.mp ht) hresolved (by decide) (fun _ _ => rfl)
  obtain ⟨about', habout', hgainsAbout⟩ := hgains _ _ habout
  obtain ⟨home', hhome', hgainsHome⟩ := hgains _ _ hhome
  refine ⟨cache, cache', about, about', home, home', hbuilt, hcache' _, hsame, habout, habout', ?_,
    hhome, hhome', ?_⟩
  · have hother : about.name ≠ "home.html" := by
      rw [haboutName]
      decide
    exact hgainsAbout.sources.trans (if_neg hother)
  · exact hgainsHome.sources.trans (if_pos hhomeName)

end Folio
