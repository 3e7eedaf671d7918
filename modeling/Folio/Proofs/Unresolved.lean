/-
Calls that nothing provides.

A build checks every template of every bundle for names that are called, not declared and not
provided.  It takes a name for called if the scan of the source finds it in call position, and
this decides: a source is refused by every site that compiles it exactly if the scan finds such
a name.  What the template really calls is what its syntax tree says.  The two differ where a
section of the source is not clean, and where a callee stands in parentheses; there a call may
be missed, and the site is built.
-/
import Folio.Proofs.Fallible
import Folio.Proofs.Sections
import Folio.Site.Build

namespace Folio

open Template

/-- The names that a source uses and leaves to be declared elsewhere. -/
def undeclared (source : String) : List String :=
  match Template.compile "" source with
  | .ok t => freeNames t.body
  | .error _ => []

namespace Build

variable {config : Config} {files : FileTree} {order : TemplateOrder} {functions : Registry}
  {page : Path} {name source : String} {t : Template}

/-! ### One template -/

theorem insertName_ne_nil (name : String) (names : List String) : insertName name names ≠ [] := by
  cases names with
  | nil => simp [insertName]
  | cons n rest =>
      rw [insertName]
      split
      · simp
      · split
        · simp
        · simp

theorem unresolved_eq_nil_iff :
    unresolved functions t = [] ↔ ∀ n ∈ t.freeCalls, provided functions n = true := by
  rw [unresolved]
  constructor
  · intro h n hn
    cases hfilter : t.freeCalls.filter fun name => !provided functions name with
    | nil =>
        rw [List.filter_eq_nil_iff] at hfilter
        simpa using hfilter n hn
    | cons m rest =>
        rw [hfilter] at h
        exact absurd h (insertName_ne_nil _ _)
  · intro h
    rw [List.filter_eq_nil_iff.mpr]
    · rfl
    · intro n hn
      simp [h n hn]

theorem checkNames_ok_iff {entries : List (String × Template)} :
    checkNames functions page entries = .ok () ↔
      ∀ e ∈ entries, unresolved functions e.2 = [] := by
  induction entries with
  | nil => simp [checkNames]
  | cons e rest ih =>
      rw [checkNames]
      split
      · rename_i hnil
        simp [ih, hnil]
      · rename_i hne
        simp only [reduceCtorEq, false_iff]
        exact fun h => hne (h e List.mem_cons_self)

theorem mem_freeCalls (h : Template.compile name source = .ok t) {n : String} :
    n ∈ t.freeCalls ↔ n ∈ undeclared source ∧ n ∈ calledNames source := by
  unfold Template.compile at h
  unfold undeclared Template.compile
  split at h
  · cases h
    rw [Template.freeCalls, List.mem_filter, List.contains_iff_mem]
    exact Iff.rfl
  · simp at h

theorem compile_of_parse (name : String) {body : List Stmt} (h : parse source = .ok body) :
    ∃ t, Template.compile name source = .ok t := by
  unfold Template.compile
  split
  · exact ⟨_, rfl⟩
  · rename_i herror
    rw [h] at herror
    cases herror

/-! ### One bundle -/

/-- The order of the templates makes no difference to whether the check succeeds. -/
theorem checkNames_listed_ok_iff {templates : Dict Template} :
    checkNames functions page (order.listed page templates) = .ok () ↔
      ∀ e ∈ templates.entries, unresolved functions e.2 = [] := by
  simp only [checkNames_ok_iff, TemplateOrder.mem_listed]

theorem compileTemplate_eq_ok :
    compileTemplate page name source = .ok t ↔ Template.compile name source = .ok t :=
  mapError_eq_ok

theorem compileFragments_frame {fragments : List Source} {name : String} :
    ∀ {templates templates' : Dict Template},
      compileFragments page templates fragments = .ok templates' →
      (∀ f ∈ fragments, f.file.relativeName ≠ name) →
      templates'.get? name = templates.get? name := by
  induction fragments with
  | nil =>
      intro templates templates' h _
      cases h
      rfl
  | cons f rest ih =>
      intro templates templates' h hnames
      rw [compileFragments, bind_eq_ok] at h
      obtain ⟨t, -, hrest⟩ := h
      rw [ih hrest fun g hg => hnames g (List.mem_cons_of_mem _ hg), Dict.get?_insert, if_neg]
      exact Ne.symm (hnames f List.mem_cons_self)

theorem compileFragments_get? {file : TemplateFile} {before after : List Source} :
    ∀ {templates templates' : Dict Template},
      compileFragments page templates (before ++ ⟨file, source⟩ :: after) = .ok templates' →
      (∀ f ∈ after, f.file.relativeName ≠ file.relativeName) →
      ∃ t, Template.compile file.relativeName source = .ok t ∧
        templates'.get? file.relativeName = some t := by
  induction before with
  | nil =>
      intro templates templates' h hnames
      rw [List.nil_append, compileFragments, bind_eq_ok] at h
      obtain ⟨t, ht, hafter⟩ := h
      refine ⟨t, compileTemplate_eq_ok.mp ht, ?_⟩
      rw [compileFragments_frame hafter hnames, Dict.get?_insert, if_pos rfl]
  | cons f before ih =>
      intro templates templates' h hnames
      rw [List.cons_append, compileFragments, bind_eq_ok] at h
      obtain ⟨t, -, hrest⟩ := h
      exact ih hrest hnames

/-- A template among the compiled fragments was there before or is the last one of its name. -/
theorem compileFragments_origin {fragments : List Source} {template : String} :
    ∀ {templates templates' : Dict Template},
      compileFragments page templates fragments = .ok templates' →
      templates'.get? template = some t →
      (templates.get? template = some t ∧ ∀ f ∈ fragments, f.file.relativeName ≠ template) ∨
        ∃ before after f, fragments = before ++ f :: after ∧ f.file.relativeName = template ∧
          (∀ g ∈ after, g.file.relativeName ≠ template) ∧
          Template.compile template f.text = .ok t := by
  induction fragments with
  | nil =>
      intro templates templates' h hget
      cases h
      exact .inl ⟨hget, by simp⟩
  | cons f rest ih =>
      intro templates templates' h hget
      rw [compileFragments, bind_eq_ok] at h
      obtain ⟨u, hu, hrest⟩ := h
      rcases ih hrest hget with ⟨hbefore, hnames⟩ | ⟨before, after, g, rfl, hg⟩
      · rw [Dict.get?_insert] at hbefore
        split at hbefore
        · rename_i heq
          cases hbefore
          refine .inr ⟨[], rest, f, rfl, heq.symm, hnames, ?_⟩
          rw [heq]
          exact compileTemplate_eq_ok.mp hu
        · rename_i hne
          exact .inl ⟨hbefore, List.forall_mem_cons.mpr ⟨Ne.symm hne, hnames⟩⟩
      · exact .inr ⟨f :: before, after, g, rfl, hg⟩

/-- What it takes for the bundle of a page to be compiled, and what is in it then. -/
theorem compileBundle_eq_ok {fragments : List Source} {file : TemplateFile} {bundle : Bundle} :
    compileBundle config files order fragments file = .ok bundle ↔
    ∃ templates text t, compileFragments file.path {} fragments = .ok templates ∧
      files.readText file.path = .ok text ∧ Template.compile file.name text = .ok t ∧
      (∀ e ∈ (templates.insert file.name t).entries, unresolved config.functions e.2 = []) ∧
      bundle = {
        name := file.name
        page := file.path
        env := {
          templates := templates.insert file.name t
          functions := config.functions
          mode := config.undefined } } := by
  simp only [compileBundle, bind_eq_ok, readSource, mapError_eq_ok, compileTemplate_eq_ok]
  constructor
  · rintro ⟨templates, htemplates, text, htext, t, ht, ⟨⟩, hchecked, ⟨⟩⟩
    exact ⟨templates, text, t, htemplates, htext, ht, checkNames_listed_ok_iff.mp hchecked, rfl⟩
  · rintro ⟨templates, text, t, htemplates, htext, ht, hchecked, rfl⟩
    exact ⟨templates, htemplates, text, htext, t, ht, (),
      checkNames_listed_ok_iff.mpr hchecked, rfl⟩

/-- A page whose calls are all provided makes a bundle of its own. -/
theorem compileBundle_alone {file : TemplateFile} {text : String}
    (htext : files.readText file.path = .ok text) (ht : Template.compile file.name text = .ok t)
    (h : ∀ n ∈ t.freeCalls, provided config.functions n = true) :
    ∃ bundle, compileBundle config files order [] file = .ok bundle := by
  have hchecked : ∀ e ∈ (({} : Dict Template).insert file.name t).entries,
      unresolved config.functions e.2 = [] := by
    intro e he
    cases List.mem_singleton.mp he
    exact unresolved_eq_nil_iff.mpr h
  exact ⟨_, compileBundle_eq_ok.mpr ⟨{}, text, t, rfl, htext, ht, hchecked, rfl⟩⟩

/-! ### One site -/

theorem addPages_ok {fragments : List Source} {pages : List TemplateFile} :
    ∀ {cache cache' : Cache},
      (addPages config files order fragments cache pages).result = .ok cache' →
      ∀ file ∈ pages, ∃ bundle, compileBundle config files order fragments file = .ok bundle := by
  induction pages with
  | nil => intro cache cache' _ file hfile; simp at hfile
  | cons first rest ih =>
      intro cache cache' h file hfile
      rw [addPages] at h
      split at h
      · simp at h
      · rename_i bundle hbundle
        split at h
        · simp at h
        · rcases List.mem_cons.mp hfile with rfl | hfile
          · exact ⟨bundle, hbundle⟩
          · exact ih h file hfile

theorem sources_eq_ok {pages : List TemplateFile} {fragments : List Source} :
    sources config files = .ok (pages, fragments) ↔
      discoverTemplates files config.pagesRoot config.extension = .ok pages ∧
      ∃ found, discoverTemplates files config.fragmentsRoot config.extension = .ok found ∧
        readFragments files found = .ok fragments := by
  simp only [sources, bind_eq_ok, mapError_eq_ok]
  constructor
  · rintro ⟨pages', hpages, found, hfound, fragments', hfragments, ⟨⟩⟩
    exact ⟨hpages, found, hfound, hfragments⟩
  · rintro ⟨hpages, found, hfound, hfragments⟩
    exact ⟨pages, hpages, found, hfound, fragments, hfragments, rfl⟩

theorem addPages_single {file : TemplateFile} {fragments : List Source} {bundle : Bundle}
    (h : compileBundle config files order fragments file = .ok bundle) :
    ∃ cache, (addPages config files order fragments {} [file]).result = .ok cache := by
  rw [addPages, h]
  exact ⟨_, rfl⟩

theorem ofSources_result {fragments : List Source} (pages : List TemplateFile) :
    (ofSources config files order pages fragments).result =
      (addPages config files order fragments {} pages).result := by
  unfold ofSources
  dsimp only
  cases (addPages config files order fragments {} pages).result with
  | error e => rfl
  | ok cache => rfl

theorem buildSite_eq_ok {cache : Cache} : (buildSite config files order).result = .ok cache ↔
    ∃ pages fragments, sources config files = .ok (pages, fragments) ∧
      (addPages config files order fragments {} pages).result = .ok cache := by
  unfold buildSite
  cases hsources : sources config files with
  | error e => simp
  | ok found =>
      obtain ⟨pages, fragments⟩ := found
      dsimp only
      rw [ofSources_result]
      exact ⟨fun h => ⟨pages, fragments, rfl, h⟩, by rintro ⟨_, _, ⟨⟩, h⟩; exact h⟩

theorem buildSite_ok {cache : Cache} (h : (buildSite config files order).result = .ok cache) :
    ∃ pages fragments, sources config files = .ok (pages, fragments) ∧
      ∀ file ∈ pages, ∃ bundle, compileBundle config files order fragments file = .ok bundle := by
  obtain ⟨pages, fragments, hsources, hadded⟩ := buildSite_eq_ok.mp h
  exact ⟨pages, fragments, hsources, addPages_ok hadded⟩

end Build

/-- A site compiles a source into at least one bundle: as a page, or as a fragment that the page
of that bundle does not hide. -/
inductive Compiles (config : Config) (files : FileTree) (source : String) : Prop
  | page {pages : List TemplateFile} {fragments : List Source} {file : TemplateFile}
      (found : Build.sources config files = .ok (pages, fragments)) (listed : file ∈ pages)
      (text : files.readText file.path = .ok source)
  | fragment {pages : List TemplateFile} {before after : List Source}
      {file page : TemplateFile}
      (found : Build.sources config files = .ok (pages, before ++ ⟨file, source⟩ :: after))
      (last : ∀ f ∈ after, f.file.relativeName ≠ file.relativeName) (listed : page ∈ pages)
      (visible : page.name ≠ file.relativeName)

/-- No site with these functions that compiles the source can be built. -/
def Refused (functions : Registry) (source : String) : Prop :=
  ∀ config files order, config.functions = functions → Compiles config files source →
    ∀ cache, (buildSite config files order).result ≠ .ok cache

/-- In a site that has been built every name that the scan finds called and the source does not
declare is provided. -/
theorem Compiles.provided {config : Config} {files : FileTree} {order : TemplateOrder}
    {source : String} {cache : Cache} (hcompiles : Compiles config files source)
    (h : (buildSite config files order).result = .ok cache)
    {n : String} (hfree : n ∈ undeclared source) (hcalled : n ∈ calledNames source) :
    Build.provided config.functions n = true := by
  obtain ⟨pages, fragments, hsources, hbundles⟩ := Build.buildSite_ok h
  -- Wherever the compiled source is among the templates of a bundle it has been checked.
  have hchecked : ∀ {templates : Dict Template} {name : String} {t : Template},
      Template.compile name source = .ok t → templates.get? name = some t →
      (∀ e ∈ templates.entries, Build.unresolved config.functions e.2 = []) →
      Build.provided config.functions n = true := by
    intro templates name t ht hget hall
    have hnone := hall _ (Dict.get?_eq_some_iff.mp hget)
    exact Build.unresolved_eq_nil_iff.mp hnone n ((Build.mem_freeCalls ht).mpr ⟨hfree, hcalled⟩)
  cases hcompiles with
  | page found listed text =>
      cases found.symm.trans hsources
      obtain ⟨bundle, hbundle⟩ := hbundles _ listed
      obtain ⟨templates, text', t, -, htext, ht, hall, -⟩ := Build.compileBundle_eq_ok.mp hbundle
      cases text.symm.trans htext
      exact hchecked ht (by simp) hall
  | fragment found last listed visible =>
      cases found.symm.trans hsources
      obtain ⟨bundle, hbundle⟩ := hbundles _ listed
      obtain ⟨templates, text', t, htemplates, -, -, hall, -⟩ :=
        Build.compileBundle_eq_ok.mp hbundle
      obtain ⟨u, hu, hget⟩ := Build.compileFragments_get? htemplates last
      refine hchecked hu ?_ hall
      rw [Dict.get?_insert, if_neg (Ne.symm visible), hget]

/-! ### A site of one page -/

theorem FileTree.readText_of_readBytes {files : FileTree} {path : Path} {source : String}
    (h : files.readBytes path = .ok source.toUTF8) : files.readText path = .ok source := by
  have htext : String.fromUTF8? source.toUTF8 = some source := by
    rw [String.toUTF8_eq_toByteArray, String.fromUTF8?, dif_pos source.isValidUTF8]
    rfl
  rw [FileTree.readText, h]
  simp only [bind, Except.bind, htext]

/-- A site whose only page has the given source. -/
def onePage (source : String) : FileTree :=
  .dir [("pages", .dir [("page.html", .file source.toUTF8)]), ("fragments", .dir [])]

/-- A configuration for `onePage`. -/
def onePageConfig (functions : Registry) : Config where
  pagesRoot := ⟨"pages"⟩
  fragmentsRoot := ⟨"fragments"⟩
  functions := functions

section OnePage

variable (functions : Registry) (source : String)

theorem onePage_sources :
    Build.sources (onePageConfig functions) (onePage source) =
      .ok ([⟨"page.html", "page.html", ⟨"pages/page.html"⟩⟩], []) := by
  have hpages : discoverTemplates (onePage source) ⟨"pages"⟩ ".html" =
      .ok [⟨"page.html", "page.html", ⟨"pages/page.html"⟩⟩] := by
    rfl
  have hfragments : discoverTemplates (onePage source) ⟨"fragments"⟩ ".html" = .ok [] := by
    rfl
  simp only [Build.sources, onePageConfig, hpages, hfragments, mapError_ok]
  rfl

theorem onePage_readText : (onePage source).readText ⟨"pages/page.html"⟩ = .ok source :=
  FileTree.readText_of_readBytes rfl

theorem onePage_compiles : Compiles (onePageConfig functions) (onePage source) source :=
  .page (onePage_sources functions source) List.mem_cons_self (onePage_readText source)

/-- The site of one page can be built if everything that the scan finds called is declared or
provided. -/
theorem onePage_builds {body : List Stmt} (hparse : parse source = .ok body)
    (order : TemplateOrder)
    (h : ∀ n ∈ undeclared source, n ∈ calledNames source → Build.provided functions n = true) :
    ∃ cache, (buildSite (onePageConfig functions) (onePage source) order).result = .ok cache := by
  obtain ⟨t, ht⟩ := Build.compile_of_parse "page.html" hparse
  have hprovided : ∀ n ∈ t.freeCalls, Build.provided functions n = true := by
    intro n hn
    obtain ⟨hfree, hcalled⟩ := (Build.mem_freeCalls ht).mp hn
    exact h n hfree hcalled
  obtain ⟨bundle, hbundle⟩ :=
    @Build.compileBundle_alone (onePageConfig functions) (onePage source) order t
      ⟨"page.html", "page.html", ⟨"pages/page.html"⟩⟩ source (onePage_readText source) ht hprovided
  obtain ⟨cache, hcache⟩ := Build.addPages_single hbundle
  refine ⟨cache, ?_⟩
  rw [buildSite, onePage_sources]
  simp only [Build.ofSources, hcache]

end OnePage

/-! ### What is refused -/

/-- What a check of the parsed source says. -/
theorem parse_calls {source n : String}
    (h : (parse source).toOption.any (fun body => (stmtsCallees body).contains n) = true) :
    ∃ body, parse source = .ok body ∧ n ∈ stmtsCallees body := by
  cases hparse : parse source with
  | error e => simp [hparse, Except.toOption] at h
  | ok body => exact ⟨body, rfl, by simpa [hparse, Except.toOption] using h⟩

/-- A source in which the scan finds a call that nothing provides is refused. -/
theorem refused_of_mem {functions : Registry} {source n : String} (hfree : n ∈ undeclared source)
    (hcalled : n ∈ calledNames source) (hmissing : Build.provided functions n = false) :
    Refused functions source := by
  rintro config files order rfl hcompiles cache hbuilt
  rw [hcompiles.provided hbuilt hfree hcalled] at hmissing
  cases hmissing

/--
**A call that nothing provides, and when it is refused.**

Let a template call a name that it does not declare and that nothing provides.  Every site that
compiles it is refused if, and only if, the scan finds some such name called.  It finds this one
at least if all sections of the source are clean and the callee is nowhere in parentheses.
-/
theorem refused_iff {functions : Registry} {source n : String} {body : List Stmt}
    (hparse : parse source = .ok body) (hcall : n ∈ stmtsCallees body)
    (hfree : n ∈ undeclared source) (hmissing : Build.provided functions n = false) :
    (Refused functions source ↔
      ∃ m ∈ undeclared source, m ∈ calledNames source ∧ Build.provided functions m = false) ∧
    (cleanlyCut source = true → (∀ k, ¬ SpelledWithin (k + 1) (tokensOf source) n) →
      n ∈ calledNames source ∧ Refused functions source) := by
  refine ⟨⟨fun hrefused => ?_, ?_⟩, fun hclean hbare => ?_⟩
  · refine Classical.byContradiction fun hnone => ?_
    have hprovided : ∀ m ∈ undeclared source, m ∈ calledNames source →
        Build.provided functions m = true := by
      intro m hm hcalled
      refine eq_true_of_ne_false fun hmissing' => ?_
      exact hnone ⟨m, hm, hcalled, hmissing'⟩
    obtain ⟨cache, hbuilt⟩ := onePage_builds functions source hparse .byName hprovided
    exact hrefused _ _ _ rfl (onePage_compiles functions source) cache hbuilt
  · rintro ⟨m, hm, hcalled, hmissing'⟩
    exact refused_of_mem hm hcalled hmissing'
  · obtain ⟨hspells, hout⟩ := callees_spelled hparse
    obtain ⟨k, hk⟩ := hspells n hcall
    have hfound : n ∈ calledNames source := by
      cases k with
      | zero => exact mem_calledNames hclean hout hk
      | succ k => exact absurd hk (hbare k)
    exact ⟨hfound, refused_of_mem hfree hfound hmissing⟩

/-- A misspelled function is refused. -/
theorem refused_misspelled :
    let source := "\x7b\x7b shot(title) \x7d\x7d"
    ∃ body, parse source = .ok body ∧ "shot" ∈ stmtsCallees body ∧
      "shot" ∈ undeclared source ∧ Build.provided .standard "shot" = false ∧
      Refused .standard source := by
  intro source
  obtain ⟨body, hparse, hcall⟩ := @parse_calls source "shot" (by decide +kernel)
  have hfree : "shot" ∈ undeclared source := by decide +kernel
  have hmissing : Build.provided .standard "shot" = false := by decide +kernel
  have hclean : cleanlyCut source = true := by decide +kernel
  have hbare : ∀ k, ¬ SpelledWithin (k + 1) (tokensOf source) "shot" := by
    have htokens : tokensOf "\x7b\x7b shot(title) \x7d\x7d" =
        [.outputStart, .ident "shot", .parenOpen, .ident "title", .parenClose, .outputEnd] := by
      rfl
    rintro k ⟨before, rest, heq, -⟩
    -- In parentheses the name would have a closing one behind it.
    have hclosed : ∃ front behind, tokensOf source =
        front ++ .ident "shot" :: .parenClose :: behind := by
      refine ⟨before ++ .replicate (k + 1) .parenOpen,
        .replicate k .parenClose ++ .parenOpen :: rest, ?_⟩
      rw [heq, wrapped, List.replicate_succ (a := Token.parenClose)]
      simp
    obtain ⟨front, behind, hclosed⟩ := hclosed
    rw [htokens] at hclosed
    simp [List.cons_eq_append_iff] at hclosed
  exact ⟨body, hparse, hcall, hfree, hmissing,
    ((refused_iff hparse hcall hfree hmissing).2 hclean hbare).2⟩

/-- A call behind a string with a closing delimiter in it is missed, and the site is built. -/
theorem missed_call :
    let source := "\x7b\x7b '\x7d\x7d' ~ f(1) \x7d\x7d"
    ∃ body, parse source = .ok body ∧ "f" ∈ stmtsCallees body ∧
      "f" ∈ undeclared source ∧ Build.provided .standard "f" = false ∧
      Compiles (onePageConfig .standard) (onePage source) source ∧
      ∀ order, ∃ cache,
        (buildSite (onePageConfig .standard) (onePage source) order).result = .ok cache := by
  intro source
  obtain ⟨body, hparse, hcall⟩ := @parse_calls source "f" (by decide +kernel)
  have hnone : calledNames source = [] := by decide +kernel
  exact ⟨body, hparse, hcall, by decide +kernel, by decide +kernel,
    onePage_compiles .standard source,
    fun order => onePage_builds .standard source hparse order (by simp [hnone])⟩

end Folio
