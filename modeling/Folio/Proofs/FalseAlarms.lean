/-
Names that a build reports.

A build that fails because of unresolved names tells in which template of which page's bundle they
are.  They are exactly those that the scan finds called, that the template does not declare and
that nothing provides, and this is where a build may raise a false alarm: what the scan takes for a
call need not be one.  In a tidy source every name that is reported is called, or it is a decoy; in
others it may be a name that the template only reads.
-/
import Folio.Proofs.Decoys
import Folio.Proofs.TidyScan
import Folio.Proofs.Unresolved

namespace Folio

open Template

namespace Build

variable {config : Config} {files : FileTree} {order : TemplateOrder} {functions : Registry}
  {page : Path} {n template : String} {names : List String} {t : Template}

/-! ### One template -/

theorem mem_insertName {m : String} : m ∈ insertName n names ↔ m = n ∨ m ∈ names := by
  induction names with
  | nil => simp [insertName]
  | cons k rest ih =>
      rw [insertName]
      split
      · simp
      · split
        · rename_i heq
          simp [heq]
        · rw [List.mem_cons, ih, List.mem_cons]
          exact or_left_comm

theorem mem_unresolved :
    n ∈ unresolved functions t ↔ n ∈ t.freeCalls ∧ provided functions n = false := by
  have hfold : ∀ names : List String, n ∈ names.foldr insertName [] ↔ n ∈ names := by
    intro names
    induction names with
    | nil => simp
    | cons m rest ih => rw [List.foldr_cons, mem_insertName, ih, List.mem_cons]
  rw [unresolved, hfold, List.mem_filter]
  simp

theorem checkNames_error {entries : List (String × Template)} {e : BuildError}
    (h : checkNames functions page entries = .error e) :
    ∃ x ∈ entries, unresolved functions x.2 ≠ [] ∧
      e = .unresolvedName page x.1 (unresolved functions x.2) := by
  induction entries with
  | nil => cases h
  | cons x rest ih =>
      rw [checkNames] at h
      split at h
      · obtain ⟨y, hy, hnames⟩ := ih h
        exact ⟨y, List.mem_cons_of_mem _ hy, hnames⟩
      · rename_i hne
        cases h
        exact ⟨x, List.mem_cons_self, hne, rfl⟩

/-! ### One bundle -/

theorem compileFragments_error {fragments : List Source} {e : BuildError} :
    ∀ {templates : Dict Template}, compileFragments page templates fragments = .error e →
      ∃ cause, e = .compile page cause := by
  induction fragments with
  | nil => intro templates h; cases h
  | cons f rest ih =>
      intro templates h
      rw [compileFragments, bind_eq_error] at h
      rcases h with h | ⟨t, -, hrest⟩
      · obtain ⟨cause, -, rfl⟩ := mapError_eq_error.mp h
        exact ⟨cause, rfl⟩
      · exact ih hrest

/-- A bundle that calls unresolved names has compiled, and one of its templates calls them. -/
theorem compileBundle_unresolved {fragments : List Source} {file : TemplateFile}
    (h : compileBundle config files order fragments file =
      .error (.unresolvedName page template names)) :
    page = file.path ∧ ∃ templates text t u,
      compileFragments file.path {} fragments = .ok templates ∧
      files.readText file.path = .ok text ∧ Template.compile file.name text = .ok t ∧
      (templates.insert file.name t).get? template = some u ∧
      names = unresolved config.functions u ∧ names ≠ [] := by
  rw [compileBundle, bind_eq_error] at h
  rcases h with h | ⟨templates, htemplates, h⟩
  · obtain ⟨cause, hcause⟩ := compileFragments_error h
    cases hcause
  rw [bind_eq_error] at h
  rcases h with h | ⟨text, htext, h⟩
  · obtain ⟨fault, -, hfault⟩ := mapError_eq_error.mp h
    cases hfault
  rw [bind_eq_error] at h
  rcases h with h | ⟨t, ht, h⟩
  · obtain ⟨cause, -, hcause⟩ := mapError_eq_error.mp h
    cases hcause
  rw [bind_eq_error] at h
  rcases h with h | ⟨-, -, h⟩
  · obtain ⟨⟨name, u⟩, hu, hne, heq⟩ := checkNames_error h
    cases heq
    exact ⟨rfl, templates, text, t, u, htemplates, mapError_eq_ok.mp htext,
      compileTemplate_eq_ok.mp ht,
      Dict.get?_eq_some_iff.mpr (TemplateOrder.mem_listed.mp hu), rfl, hne⟩
  · cases h

theorem compileBundle_of_check {fragments : List Source} {file : TemplateFile}
    {templates : Dict Template} {text : String} {e : BuildError}
    (htemplates : compileFragments file.path {} fragments = .ok templates)
    (htext : files.readText file.path = .ok text) (ht : Template.compile file.name text = .ok t)
    (h : checkNames config.functions file.path
      (order.listed file.path (templates.insert file.name t)) = .error e) :
    compileBundle config files order fragments file = .error e := by
  rw [compileBundle, bind_eq_error]
  refine .inr ⟨templates, htemplates, ?_⟩
  rw [bind_eq_error]
  refine .inr ⟨text, mapError_eq_ok.mpr htext, ?_⟩
  rw [bind_eq_error]
  refine .inr ⟨t, compileTemplate_eq_ok.mpr ht, ?_⟩
  exact bind_eq_error.mpr (.inl h)

theorem checkNames_cons {name : String} {rest : List (String × Template)}
    (h : unresolved functions t ≠ []) : checkNames functions page ((name, t) :: rest) =
      .error (.unresolvedName page name (unresolved functions t)) := by
  rw [checkNames]
  split
  · exact absurd (by assumption) h
  · rfl

/-! ### One site -/

theorem addPages_unresolved {fragments : List Source} {pages : List TemplateFile} :
    ∀ {cache : Cache}, (addPages config files order fragments cache pages).result =
        .error (.unresolvedName page template names) →
      ∃ file ∈ pages, compileBundle config files order fragments file =
        .error (.unresolvedName page template names) := by
  induction pages with
  | nil => intro cache h; cases h
  | cons first rest ih =>
      intro cache h
      rw [addPages] at h
      split at h
      · rename_i e he
        cases h
        exact ⟨first, List.mem_cons_self, he⟩
      · split at h
        · -- A collision is another error.
          rename_i e he
          unfold settleCollision at he
          cases h
          repeat' split at he
          all_goals cases he
        · obtain ⟨file, hfile, hbundle⟩ := ih h
          exact ⟨file, List.mem_cons_of_mem _ hfile, hbundle⟩

theorem readFragments_error {found : List TemplateFile} {e : BuildError}
    (h : readFragments files found = .error e) : ∃ path cause, e = .read path cause := by
  induction found with
  | nil => cases h
  | cons file rest ih =>
      rw [readFragments, bind_eq_error] at h
      rcases h with h | ⟨text, -, h⟩
      · obtain ⟨fault, -, rfl⟩ := mapError_eq_error.mp h
        exact ⟨_, _, rfl⟩
      · rw [bind_eq_error] at h
        rcases h with h | ⟨sources, -, h⟩
        · exact ih h
        · cases h

theorem sources_ne_unresolved :
    sources config files ≠ .error (.unresolvedName page template names) := by
  intro h
  rw [sources, bind_eq_error] at h
  rcases h with h | ⟨pages, -, h⟩
  · obtain ⟨fault, -, hfault⟩ := mapError_eq_error.mp h
    cases hfault
  rw [bind_eq_error] at h
  rcases h with h | ⟨found, -, h⟩
  · obtain ⟨fault, -, hfault⟩ := mapError_eq_error.mp h
    cases hfault
  rw [bind_eq_error] at h
  rcases h with h | ⟨fragments, -, h⟩
  · obtain ⟨path, cause, hcause⟩ := readFragments_error h
    cases hcause
  · cases h

theorem buildSite_unresolved
    (h : (buildSite config files order).result = .error (.unresolvedName page template names)) :
    ∃ pages fragments file, sources config files = .ok (pages, fragments) ∧ file ∈ pages ∧
      compileBundle config files order fragments file =
        .error (.unresolvedName page template names) := by
  unfold buildSite at h
  split at h
  · rename_i e he
    cases h
    exact absurd he sources_ne_unresolved
  · rename_i pages fragments hsources
    unfold ofSources at h
    dsimp only at h
    split at h
    · rename_i e he
      cases h
      obtain ⟨file, hfile, hbundle⟩ := addPages_unresolved he
      exact ⟨pages, fragments, file, hsources, hfile, hbundle⟩
    · cases h

end Build

/-- The bundle of a page has a template, which is compiled from a source: that of the page, or of
the last fragment of its name, which the page does not hide. -/
inductive CompiledAs (config : Config) (files : FileTree) (page : Path) (template source : String) :
    Prop
  | page {pages : List TemplateFile} {fragments : List Source} {file : TemplateFile}
      (found : Build.sources config files = .ok (pages, fragments)) (listed : file ∈ pages)
      (path : file.path = page) (name : file.name = template)
      (text : files.readText page = .ok source)
  | fragment {pages : List TemplateFile} {before after : List Source} {own file : TemplateFile}
      (found : Build.sources config files = .ok (pages, before ++ ⟨file, source⟩ :: after))
      (listed : own ∈ pages) (path : own.path = page) (name : file.relativeName = template)
      (last : ∀ f ∈ after, f.file.relativeName ≠ template) (visible : own.name ≠ template)

theorem parse_of_compile {name source : String} {t : Template}
    (h : Template.compile name source = .ok t) : ∃ body, parse source = .ok body := by
  unfold Template.compile at h
  split at h
  · rename_i body hparse
    exact ⟨body, hparse⟩
  · cases h

/--
**What a build reports, and when it is called.**

Let a build fail because of unresolved names.  The template that is reported is one of the bundle of
the page that is reported, and the names are exactly those that the scan finds called in its source,
that it does not declare and that nothing provides; there is at least one.  If the source is tidy
each of them is called in the template's tree, or it is a decoy.
-/
theorem reported_names {config : Config} {files : FileTree} {order : TemplateOrder} {page : Path}
    {template : String} {names : List String}
    (h : (buildSite config files order).result = .error (.unresolvedName page template names)) :
    ∃ source body, CompiledAs config files page template source ∧ parse source = .ok body ∧
      names ≠ [] ∧
      (∀ n, n ∈ names ↔ n ∈ undeclared source ∧ n ∈ calledNames source ∧
        Build.provided config.functions n = false) ∧
      (tidy source = true → ∀ n ∈ names, n ∈ stmtsCallees body ∨ Decoy body n) := by
  obtain ⟨pages, fragments, file, hsources, hfile, hbundle⟩ := Build.buildSite_unresolved h
  obtain ⟨rfl, templates, text, t, u, htemplates, htext, ht, hget, hnames, hne⟩ :=
    Build.compileBundle_unresolved hbundle
  -- Whichever source the template has, this is what is reported of it.
  have hreported : ∀ {name source : String}, Template.compile name source = .ok u →
      CompiledAs config files file.path template source →
      ∃ source body, CompiledAs config files file.path template source ∧
        parse source = .ok body ∧ names ≠ [] ∧
        (∀ n, n ∈ names ↔ n ∈ undeclared source ∧ n ∈ calledNames source ∧
          Build.provided config.functions n = false) ∧
        (tidy source = true → ∀ n ∈ names, n ∈ stmtsCallees body ∨ Decoy body n) := by
    intro name source hu hcompiled
    obtain ⟨body, hparse⟩ := parse_of_compile hu
    have hiff : ∀ n, n ∈ names ↔ n ∈ undeclared source ∧ n ∈ calledNames source ∧
        Build.provided config.functions n = false := by
      intro n
      rw [hnames, Build.mem_unresolved, Build.mem_freeCalls hu, and_assoc]
    refine ⟨source, body, hcompiled, hparse, hne, hiff, fun htidy n hn => ?_⟩
    obtain ⟨taken, hfaces⟩ := faces_of_calledNames htidy ((hiff n).mp hn).2.1
    exact called_or_decoy hparse hfaces
  rw [Dict.get?_insert] at hget
  split at hget
  · rename_i hname
    cases hget
    exact hreported ht (.page hsources hfile rfl hname.symm htext)
  · rename_i hhidden
    rcases Build.compileFragments_origin htemplates hget with
      ⟨hnone, -⟩ | ⟨before, after, f, rfl, hname, hlast, hu⟩
    · cases hnone
    · exact hreported hu (.fragment hsources hfile rfl hname hlast (Ne.symm hhidden))

/-! ### A site of one page -/

section OnePage

variable {functions : Registry} {source : String} (order : TemplateOrder)

theorem onePage_fails {names : List String}
    (h : (Template.compile "page.html" source).toOption.map (Build.unresolved functions) =
      some names) (hne : names ≠ []) :
    (buildSite (onePageConfig functions) (onePage source) order).result =
      .error (.unresolvedName ⟨"pages/page.html"⟩ "page.html" names) := by
  obtain ⟨t, ht, rfl⟩ := Option.map_eq_some_iff.mp h
  have hlisted : order.listed ⟨"pages/page.html"⟩ (({} : Dict Template).insert "page.html" t) =
      [("page.html", t)] :=
    List.perm_singleton.mp (order.perm _ _)
  have hbundle : Build.compileBundle (onePageConfig functions) (onePage source) order []
      ⟨"page.html", "page.html", ⟨"pages/page.html"⟩⟩ =
      .error (.unresolvedName ⟨"pages/page.html"⟩ "page.html" (Build.unresolved functions t)) := by
    refine Build.compileBundle_of_check rfl (onePage_readText source) (toOption_eq_some.mp ht) ?_
    rw [hlisted]
    exact Build.checkNames_cons hne
  rw [buildSite, onePage_sources]
  simp only [Build.ofSources, Build.addPages, hbundle]

theorem onePage_compiledAs {page : Path} {template source' : String}
    (h : CompiledAs (onePageConfig functions) (onePage source) page template source') :
    source' = source := by
  cases h with
  | page found listed path name text =>
      cases found.symm.trans (onePage_sources functions source)
      cases List.mem_singleton.mp listed
      rw [← path, onePage_readText] at text
      cases text
      rfl
  | fragment found listed path name last visible =>
      have hnone := found.symm.trans (onePage_sources functions source)
      simp at hnone

/-- What is reported of the one page is a false alarm if the page calls nothing. -/
theorem onePage_alarm {names : List String}
    (hcalls : (parse source).toOption.map stmtsCallees = some [])
    (h : (Template.compile "page.html" source).toOption.map (Build.unresolved functions) =
      some names) (hne : names ≠ []) :
    ∃ body, parse source = .ok body ∧ stmtsCallees body = [] ∧
      CompiledAs (onePageConfig functions) (onePage source) ⟨"pages/page.html"⟩ "page.html"
        source ∧
      ∀ order, (buildSite (onePageConfig functions) (onePage source) order).result =
        .error (.unresolvedName ⟨"pages/page.html"⟩ "page.html" names) := by
  obtain ⟨body, hbody, hnone⟩ := Option.map_eq_some_iff.mp hcalls
  refine ⟨body, toOption_eq_some.mp hbody, hnone, ?_, fun order => onePage_fails order h hne⟩
  exact .page (onePage_sources functions source) List.mem_cons_self rfl rfl
    (onePage_readText source)

end OnePage

/-- A misspelled function is called, and reported. -/
theorem reported_names_misspelled :
    let source := "\x7b\x7b shot(title) \x7d\x7d"
    (∀ order, (buildSite (onePageConfig .standard) (onePage source) order).result =
        .error (.unresolvedName ⟨"pages/page.html"⟩ "page.html" ["shot"])) ∧
      ∃ body, parse source = .ok body ∧ ("shot" ∈ stmtsCallees body ∨ Decoy body "shot") := by
  intro source
  have hfails : ∀ order, (buildSite (onePageConfig .standard) (onePage source) order).result =
      .error (.unresolvedName ⟨"pages/page.html"⟩ "page.html" ["shot"]) :=
    fun order => onePage_fails order (by decide +kernel) (by simp)
  obtain ⟨source', body, hcompiled, hparse, -, -, hcalled⟩ := reported_names (hfails .byName)
  rw [onePage_compiledAs hcompiled] at hparse hcalled
  exact ⟨hfails, body, hparse, hcalled (by decide +kernel) "shot" (by simp)⟩

/-- A name that is only read is reported because of a comment. -/
theorem false_alarm :
    let source := "\x7b\x7b x \x7d\x7d\x7b# \x7b\x7b x(1) \x7d\x7d #\x7d"
    ∃ body, parse source = .ok body ∧ stmtsCallees body = [] ∧
      CompiledAs (onePageConfig .standard) (onePage source) ⟨"pages/page.html"⟩ "page.html"
        source ∧
      ∀ order, (buildSite (onePageConfig .standard) (onePage source) order).result =
        .error (.unresolvedName ⟨"pages/page.html"⟩ "page.html" ["x"]) := by
  exact onePage_alarm (by decide +kernel) (by decide +kernel) (by simp)

/-- In a tidy source, too, a name that is only read may be reported, because of a test. -/
theorem false_alarm_tidy :
    let source := "\x7b\x7b odd \x7d\x7d\x7b\x7b x is odd(1) \x7d\x7d"
    tidy source = true ∧ ∃ body, parse source = .ok body ∧ stmtsCallees body = [] ∧
      CompiledAs (onePageConfig .standard) (onePage source) ⟨"pages/page.html"⟩ "page.html"
        source ∧
      ∀ order, (buildSite (onePageConfig .standard) (onePage source) order).result =
        .error (.unresolvedName ⟨"pages/page.html"⟩ "page.html" ["odd"]) := by
  intro source
  exact ⟨by decide +kernel, onePage_alarm (by decide +kernel) (by decide +kernel) (by simp)⟩

end Folio
