/-
The check of names, with few functions and with more.

In a template a name is unresolved if the scan finds it called, the template does not declare it,
and neither the view nor the language nor a registered function provides it (`Build.Unresolved`).
The check is exact: it passes if there is no such name in any template, and otherwise it reports all
of them in one template, in order (`checkNames_exact`).

Only the last condition looks at the registered functions, and only at their names.  So to register
more takes the new names away from what is unresolved and adds nothing, and a bundle that has been
compiled is compiled still, with the same templates (`compileBundle_more`).  For a site the
induction is on the pages, and the caches of both builds agree at every page, apart from the
functions that are bound in their bundles (`addPages_map`, `addPages_more`).
-/
import Folio.Proofs.ByteOrder
import Folio.Proofs.FalseAlarms
import Folio.Proofs.Maps

namespace Folio

open Template

namespace Build

variable {functions functions' : Registry} {page : Path} {n : String} {names : List String}
  {t : Template} {entries : List (String × Template)}

/-! ### What is unresolved -/

/-- A name that a template calls, as far as the scan finds it, and that nothing provides. -/
structure Unresolved (functions : Registry) (t : Template) (n : String) : Prop where
  called : n ∈ calledNames t.source
  free : n ∈ freeNames t.body
  notInView : n ∉ View.fields
  notInLanguage : n ∉ languageNames
  notRegistered : n ∉ functions.names

theorem contains_iff_mem_names : functions.contains n = true ↔ n ∈ functions.names := by
  rw [Registry.names, Dict.mem_keys, Dict.contains, Option.isSome_iff_exists]

theorem provided_eq_false_iff : provided functions n = false ↔
    n ∉ View.fields ∧ n ∉ languageNames ∧ n ∉ functions.names := by
  rw [provided, ← contains_iff_mem_names]
  simp [and_assoc]

/-- The names that are listed for a template are those that are unresolved in it. -/
theorem mem_unresolved_iff : n ∈ unresolved functions t ↔ Unresolved functions t n := by
  rw [mem_unresolved, provided_eq_false_iff, freeCalls, List.mem_filter, List.contains_iff_mem]
  constructor
  · rintro ⟨⟨hfree, hcalled⟩, hview, hlanguage, hregistered⟩
    exact ⟨hcalled, hfree, hview, hlanguage, hregistered⟩
  · intro h
    exact ⟨⟨h.free, h.called⟩, h.notInView, h.notInLanguage, h.notRegistered⟩

theorem insertName_ordered (h : names.Pairwise (· < ·)) :
    (insertName n names).Pairwise (· < ·) := by
  induction names with
  | nil => exact List.pairwise_singleton _ _
  | cons m rest ih =>
      obtain ⟨hm, hrest⟩ := List.pairwise_cons.mp h
      rw [insertName]
      by_cases hlt : n < m
      · rw [if_pos hlt]
        refine List.pairwise_cons.mpr ⟨fun k hk => ?_, h⟩
        rcases List.mem_cons.mp hk with rfl | hk
        · exact hlt
        · exact String.lt_trans hlt (hm k hk)
      rw [if_neg hlt]
      by_cases heq : n = m
      · rw [if_pos heq]
        exact h
      rw [if_neg heq]
      have hgt : m < n := by
        refine String.not_le.mp fun hle => heq ?_
        exact String.le_antisymm hle (String.not_lt.mp hlt)
      refine List.pairwise_cons.mpr ⟨fun k hk => ?_, ih hrest⟩
      rcases mem_insertName.mp hk with rfl | hk
      · exact hgt
      · exact hm k hk

/-- Unresolved names are listed once each, in the order of their bytes. -/
theorem unresolved_ordered : (unresolved functions t).Pairwise BytesLt := by
  have hfold : ∀ names : List String, (names.foldr insertName []).Pairwise (· < ·) := by
    intro names
    induction names with
    | nil => exact .nil
    | cons n rest ih => exact insertName_ordered ih
  exact (hfold _).imp lt_iff_bytesLt.mp

/-! ### What is reported -/

/-- A list of all that is unresolved in a template, if something is. -/
structure Reports (functions : Registry) (t : Template) (names : List String) : Prop where
  nonempty : names ≠ []
  complete : ∀ n, n ∈ names ↔ Unresolved functions t n
  ordered : names.Pairwise BytesLt

theorem reports_unresolved (h : unresolved functions t ≠ []) :
    Reports functions t (unresolved functions t) where
  nonempty := h
  complete _ := mem_unresolved_iff
  ordered := unresolved_ordered

theorem checkNames_passes : checkNames functions page entries = .ok () ↔
    ∀ e ∈ entries, ∀ n, ¬ Unresolved functions e.2 n := by
  rw [checkNames_ok_iff]
  refine forall₂_congr fun e _ => ?_
  rw [List.eq_nil_iff_forall_not_mem]
  exact forall_congr' fun n => not_congr mem_unresolved_iff

/-- **The check passes if nothing is unresolved, and otherwise reports all of it in one
template.** -/
theorem checkNames_exact (functions : Registry) (page : Path) (entries : List (String × Template)) :
    (checkNames functions page entries = .ok () ∧
      ∀ e ∈ entries, ∀ n, ¬ Unresolved functions e.2 n) ∨
    ∃ e ∈ entries, ∃ names, Reports functions e.2 names ∧
      checkNames functions page entries = .error (.unresolvedName page e.1 names) := by
  cases h : checkNames functions page entries with
  | ok _ => exact .inl ⟨rfl, checkNames_passes.mp h⟩
  | error e =>
      obtain ⟨entry, hentry, hne, rfl⟩ := checkNames_error h
      exact .inr ⟨entry, hentry, _, reports_unresolved hne, rfl⟩

/-- **A page whose templates compile makes a bundle or not, as the check of all of them says.** -/
theorem compileBundle_checked {config : Config} {files : FileTree} {order : TemplateOrder}
    {fragments : List Source} {file : TemplateFile} {templates : Dict Template} {text : String}
    (htemplates : compileFragments file.path {} fragments = .ok templates)
    (htext : files.readText file.path = .ok text) (ht : Template.compile file.name text = .ok t) :
    (compileBundle config files order fragments file).map (fun _ => ()) =
      checkNames config.functions file.path
        (order.listed file.path (templates.insert file.name t)) := by
  have hread : readSource files file.path = .ok text := mapError_eq_ok.mpr htext
  have hcompile : compileTemplate file.path file.name text = .ok t := compileTemplate_eq_ok.mpr ht
  rw [compileBundle, htemplates, hread]
  show (compileTemplate file.path file.name text >>= _).map _ = _
  rw [hcompile]
  -- What is left is the check, and a bundle if it succeeds.
  show (checkNames _ _ (order.listed file.path (templates.insert file.name t)) >>= _).map _ = _
  cases checkNames config.functions file.path
    (order.listed file.path (templates.insert file.name t)) with
  | error e => rfl
  | ok _ => rfl

end Build

/-! ### More functions -/

/-- The configuration with these functions and no others. -/
def Config.withRegistry (c : Config) (functions : Registry) : Config := { c with functions }

/-- The bundle with these functions bound in it and no others. -/
def Bundle.withRegistry (b : Bundle) (functions : Registry) : Bundle :=
  { b with env := { b.env with functions } }

namespace Dict

variable {α β : Type} {f : α → β} {d : Dict α} {name : String} {value : α}

/-- The map with another value for every name. -/
def map (f : α → β) (d : Dict α) : Dict β where
  entries := d.entries.map fun e => (e.1, f e.2)
  ordered := by
    unfold Ordered
    rw [List.pairwise_map]
    exact d.ordered

theorem keys_map : (d.map f).keys = d.keys := List.map_map

theorem get?_map : (d.map f).get? name = (d.get? name).map f := lookup?_map

theorem map_insert : (d.insert name value).map f = (d.map f).insert name (f value) := by
  have hassign : ∀ entries : List (String × α),
      (assign name value entries).map (fun e => (e.1, f e.2)) =
        assign name (f value) (entries.map fun e => (e.1, f e.2)) := by
    intro entries
    induction entries with
    | nil => rfl
    | cons e rest ih =>
        rw [List.map_cons, assign, assign]
        by_cases hlt : name < e.1
        · rw [if_pos hlt, if_pos hlt]
          rfl
        rw [if_neg hlt, if_neg hlt]
        by_cases heq : name = e.1
        · rw [if_pos heq, if_pos heq]
          rfl
        · rw [if_neg heq, if_neg heq, List.map_cons, ih]
  exact ext_entries (hassign d.entries)

end Dict

namespace Build

variable {config : Config} {files : FileTree} {order order' : TemplateOrder}
  {fragments : List Source} {page : TemplateFile} {bundle : Bundle}
  {functions functions' : Registry} {t : Template}

/-- To register more takes the new names away from what is unresolved, and adds nothing. -/
theorem unresolved_more (more : ∀ n ∈ functions.names, n ∈ functions'.names) (t : Template)
    (n : String) :
    Unresolved functions' t n ↔ Unresolved functions t n ∧ n ∉ functions'.names := by
  constructor
  · intro h
    have hfew : n ∉ functions.names := fun hn => h.notRegistered (more n hn)
    exact ⟨⟨h.called, h.free, h.notInView, h.notInLanguage, hfew⟩, h.notRegistered⟩
  · rintro ⟨h, hmany⟩
    exact ⟨h.called, h.free, h.notInView, h.notInLanguage, hmany⟩

/-- **A bundle that has been compiled is compiled with more functions, too.** -/
theorem compileBundle_more (more : ∀ n ∈ config.functions.names, n ∈ functions.names)
    (h : compileBundle config files order fragments page = .ok bundle) :
    compileBundle (config.withRegistry functions) files order' fragments page =
      .ok (bundle.withRegistry functions) := by
  obtain ⟨templates, text, t, htemplates, htext, ht, hchecked, rfl⟩ := compileBundle_eq_ok.mp h
  refine compileBundle_eq_ok.mpr ⟨templates, text, t, htemplates, htext, ht, ?_, rfl⟩
  intro e he
  refine List.eq_nil_iff_forall_not_mem.mpr fun n hn => ?_
  have hfew : Unresolved config.functions e.2 n :=
    ((unresolved_more more e.2 n).mp (mem_unresolved_iff.mp hn)).1
  rw [← mem_unresolved_iff, hchecked e he] at hfew
  cases hfew

/-- Whether pages of one name may meet depends on the paths of their bundles alone. -/
theorem settleCollision_map {policy : CollisionPolicy} {cache : Cache} {change : Bundle → Bundle}
    (hpath : ∀ bundle, (change bundle).page = bundle.page) :
    settleCollision policy (cache.map change) page = settleCollision policy cache page := by
  unfold settleCollision
  rw [Dict.get?_map]
  cases cache.get? page.name with
  | none => rfl
  | some existing => simp only [Option.map_some, hpath]

/-- **Where the bundle of every page changes in the same way, all bundles of a site do.** -/
theorem addPages_map {config' : Config} {files' : FileTree} {fragments' : List Source}
    {change : Bundle → Bundle} (hpath : ∀ bundle, (change bundle).page = bundle.page)
    (hpolicy : config'.collisions = config.collisions) {pages : List TemplateFile}
    (hchange : ∀ p ∈ pages, ∀ bundle, compileBundle config files order fragments p = .ok bundle →
      compileBundle config' files' order' fragments' p = .ok (change bundle)) :
    ∀ {cache built : Cache},
      (addPages config files order fragments cache pages).result = .ok built →
      (addPages config' files' order' fragments' (cache.map change) pages).result =
        .ok (built.map change) := by
  induction pages with
  | nil =>
      intro cache built h
      cases h
      rfl
  | cons page rest ih =>
      intro cache built h
      rw [addPages] at h ⊢
      cases hbundle : compileBundle config files order fragments page with
      | error e => rw [hbundle] at h; cases h
      | ok bundle =>
          rw [hbundle] at h
          rw [hchange page List.mem_cons_self bundle hbundle]
          dsimp only at h ⊢
          rw [hpolicy, settleCollision_map hpath, ← Dict.map_insert]
          cases hsettled : settleCollision config.collisions cache page with
          | error e => rw [hsettled] at h; cases h
          | ok replaced =>
              rw [hsettled] at h
              exact ih (fun p hp => hchange p (List.mem_cons_of_mem _ hp)) h

/-- **Pages that have been added are added with more functions, too.** -/
theorem addPages_more (more : ∀ n ∈ config.functions.names, n ∈ functions.names)
    {pages : List TemplateFile} {cache built : Cache}
    (h : (addPages config files order fragments cache pages).result = .ok built) :
    (addPages (config.withRegistry functions) files order' fragments
      (cache.map (·.withRegistry functions)) pages).result =
        .ok (built.map (·.withRegistry functions)) := by
  have hchange : ∀ p ∈ pages, ∀ bundle, compileBundle config files order fragments p = .ok bundle →
      compileBundle (config.withRegistry functions) files order' fragments p =
        .ok (bundle.withRegistry functions) :=
    fun _ _ _ => compileBundle_more more
  have hpath : ∀ bundle : Bundle, (bundle.withRegistry functions).page = bundle.page :=
    fun _ => rfl
  have hpolicy : (config.withRegistry functions).collisions = config.collisions := rfl
  exact addPages_map hpath hpolicy hchange h

/-- **A site that has been built is built with more functions, too.** -/
theorem buildSite_more {cache : Cache} (more : ∀ n ∈ config.functions.names, n ∈ functions.names)
    (h : (buildSite config files order).result = .ok cache) :
    (buildSite (config.withRegistry functions) files order').result =
      .ok (cache.map (·.withRegistry functions)) := by
  obtain ⟨pages, fragments, hsources, hadded⟩ := buildSite_eq_ok.mp h
  refine buildSite_eq_ok.mpr ⟨pages, fragments, hsources, ?_⟩
  exact addPages_more more hadded

/-- A build never reports a name that is registered. -/
theorem not_registered_of_reported {page : Path} {template : String} {names : List String}
    (h : (buildSite config files order).result = .error (.unresolvedName page template names)) :
    ∀ n ∈ names, n ∉ config.functions.names := by
  intro n hn
  obtain ⟨pages, fragments, file, -, -, hbundle⟩ := buildSite_unresolved h
  obtain ⟨-, -, -, -, u, -, -, -, -, rfl, -⟩ := compileBundle_unresolved hbundle
  exact (mem_unresolved_iff.mp hn).notRegistered

end Build

/--
**The check of names is exact, and to register more only takes names away from it.**

Let any templates be checked, in any order and with any functions.  The check succeeds exactly if no
name is unresolved in any of them; otherwise it reports one template in which some are, with all of
them, in the order of their bytes.  A page whose templates compile makes a bundle, or is reported,
as the check of all templates of the bundle says, in the order in which it lists them.

Let a registry have all the names of another one.  In every template the names that are unresolved
with the larger one are those that are so with the smaller one, apart from the names of the larger
one.  A site that can be built with the smaller one can be built with the larger one, and the
bundles have the same names and differ in nothing but the functions bound in them: their pages,
their templates and the sources of these are the same, whatever the orders of both builds.  And
once all names that a build has reported are registered, no later build reports any of them again,
of whatever files.
-/
theorem names_checked_exactly :
    (∀ (functions : Registry) (page : Path) (entries : List (String × Template)),
      (Build.checkNames functions page entries = .ok () ↔
        ∀ e ∈ entries, ∀ n, ¬ Build.Unresolved functions e.2 n) ∧
      ((∃ e ∈ entries, ∃ n, Build.Unresolved functions e.2 n) →
        ∃ e ∈ entries, ∃ names, Build.Reports functions e.2 names ∧
          Build.checkNames functions page entries = .error (.unresolvedName page e.1 names))) ∧
    (∀ (config : Config) (files : FileTree) (order : TemplateOrder) (fragments : List Source)
      (file : TemplateFile) (templates : Dict Template) (text : String) (t : Template),
      Build.compileFragments file.path {} fragments = .ok templates →
      files.readText file.path = .ok text → Template.compile file.name text = .ok t →
      (Build.compileBundle config files order fragments file).map (fun _ => ()) =
        Build.checkNames config.functions file.path
          (order.listed file.path (templates.insert file.name t))) ∧
    (∀ functions functions' : Registry, (∀ n ∈ functions.names, n ∈ functions'.names) →
      (∀ t n, Build.Unresolved functions' t n ↔
        Build.Unresolved functions t n ∧ n ∉ functions'.names) ∧
      ∀ (config : Config) (files : FileTree) (order order' : TemplateOrder) (cache : Cache),
        (buildSite (config.withRegistry functions) files order).result = .ok cache →
        ∃ cache', (buildSite (config.withRegistry functions') files order').result = .ok cache' ∧
          cache'.names = cache.names ∧
          ∀ name, cache'.get? name = (cache.get? name).map (·.withRegistry functions')) ∧
    ∀ (config config' : Config) (files files' : FileTree) (order order' : TemplateOrder)
      (page page' : Path) (template template' : String) (names names' : List String),
      (buildSite config files order).result = .error (.unresolvedName page template names) →
      (∀ n ∈ names, n ∈ config'.functions.names) →
      (buildSite config' files' order').result = .error (.unresolvedName page' template' names') →
      ∀ n ∈ names, n ∉ names' := by
  refine ⟨?_, ?_, ?_, ?_⟩
  · intro functions page entries
    refine ⟨Build.checkNames_passes, ?_⟩
    rintro ⟨e, he, n, hn⟩
    rcases Build.checkNames_exact functions page entries with ⟨-, hnone⟩ | hreported
    · exact absurd hn (hnone e he n)
    · exact hreported
  · intro config files order fragments file templates text t htemplates htext ht
    exact Build.compileBundle_checked htemplates htext ht
  · intro functions functions' more
    refine ⟨Build.unresolved_more more, ?_⟩
    intro config files order order' cache h
    have hbuilt : (buildSite (config.withRegistry functions') files order').result =
        .ok (cache.map (·.withRegistry functions')) :=
      @Build.buildSite_more (config.withRegistry functions) files order order' functions' cache
        more h
    exact ⟨_, hbuilt, Dict.keys_map, fun name => Dict.get?_map⟩
  · intro config config' files files' order order' page page' template template' names names' _
      registered hlater n hn hagain
    exact Build.not_registered_of_reported hlater n hagain (registered n hn)

/-- A misspelled function is reported until it is registered; then another one may be. -/
theorem names_checked_exactly_shot :
    let source := "\x7b\x7b shot(title) \x7d\x7d"
    let more : Registry := Registry.standard.insert "shot" (.function .shout)
    ∀ order, (∃ names, "shot" ∈ names ∧
      (Build.compileBundle (onePageConfig .standard) (onePage source) order []
        ⟨"page.html", "page.html", ⟨"pages/page.html"⟩⟩).map (fun _ => ()) =
        .error (.unresolvedName ⟨"pages/page.html"⟩ "page.html" names)) ∧
    (∃ cache cache', cache'.names = cache.names ∧
      (buildSite (onePageConfig .standard) (onePage "\x7b\x7b title \x7d\x7d") order).result =
        .ok cache ∧
      (buildSite (onePageConfig more) (onePage "\x7b\x7b title \x7d\x7d") order).result =
        .ok cache') ∧
    (buildSite (onePageConfig .standard) (onePage source) order).result =
      .error (.unresolvedName ⟨"pages/page.html"⟩ "page.html" ["shot"]) ∧
    (buildSite (onePageConfig more) (onePage "\x7b\x7b shot(shut(title)) \x7d\x7d") order).result =
      .error (.unresolvedName ⟨"pages/page.html"⟩ "page.html" ["shut"]) ∧
    "shot" ∉ ["shut"] := by
  intro source more order
  obtain ⟨hexact, hbundle, hmore, hlater⟩ := names_checked_exactly
  refine ⟨?_, ?_, ?_⟩
  · have hnames : (Template.compile "page.html" source).toOption.map
        (Build.unresolved .standard) = some ["shot"] := by decide +kernel
    obtain ⟨t, ht, hunresolved⟩ := Option.map_eq_some_iff.mp hnames
    have hshot : Build.Unresolved .standard t "shot" :=
      Build.mem_unresolved_iff.mp (by rw [hunresolved]; exact List.mem_cons_self)
    let templates := ({} : Dict Template).insert "page.html" t
    have hentry : ("page.html", t) ∈ order.listed ⟨"pages/page.html"⟩ templates :=
      TemplateOrder.mem_listed.mpr List.mem_cons_self
    obtain ⟨e, he, names, hreports, herror⟩ :=
      (hexact .standard ⟨"pages/page.html"⟩ _).2 ⟨_, hentry, "shot", hshot⟩
    cases List.mem_singleton.mp (TemplateOrder.mem_listed.mp he)
    refine ⟨names, (hreports.complete _).mpr hshot, ?_⟩
    rw [← herror]
    exact hbundle (onePageConfig .standard) (onePage source) order []
      ⟨"page.html", "page.html", ⟨"pages/page.html"⟩⟩ {} source t rfl (onePage_readText source)
      (toOption_eq_some.mp ht)
  · have hincluded : ∀ n ∈ Registry.standard.names, n ∈ more.names := by decide +kernel
    have hparses : (parse "\x7b\x7b title \x7d\x7d").toOption.isSome = true := by decide +kernel
    obtain ⟨body, hbody⟩ := Option.isSome_iff_exists.mp hparses
    have hnone : calledNames "\x7b\x7b title \x7d\x7d" = [] := by decide +kernel
    obtain ⟨cache, hcache⟩ :=
      onePage_builds .standard _ (toOption_eq_some.mp hbody) order (by simp [hnone])
    obtain ⟨cache', hcache', hsame, -⟩ :=
      (hmore .standard more hincluded).2 (onePageConfig .standard) _ order order cache
        hcache
    exact ⟨cache, cache', hsame, hcache, hcache'⟩
  · have hfails : (buildSite (onePageConfig .standard) (onePage source) order).result =
        .error (.unresolvedName ⟨"pages/page.html"⟩ "page.html" ["shot"]) :=
      onePage_fails order (by decide +kernel) (by simp)
    have hagain : (buildSite (onePageConfig more)
        (onePage "\x7b\x7b shot(shut(title)) \x7d\x7d") order).result =
        .error (.unresolvedName ⟨"pages/page.html"⟩ "page.html" ["shut"]) :=
      onePage_fails order (by decide +kernel) (by simp)
    have hregistered : ∀ n ∈ ["shot"], n ∈ (onePageConfig more).functions.names := by
      decide +kernel
    refine ⟨hfails, hagain, ?_⟩
    exact hlater _ _ _ _ order order _ _ _ _ _ _ hfails hregistered hagain "shot" List.mem_cons_self

end Folio
