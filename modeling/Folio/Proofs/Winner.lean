/-
Which of several pages of one name becomes the bundle.

The bundles of a site are known by the base names of its pages, and of several pages of one name
the last one found counts.  Since a walk finds its files in the order of their paths, this is the
page whose path, compared name by name, is the greatest (`winner_by_path`).  In which order the
directories list their entries has no influence on that, nor on anything else of a build.
-/
import Folio.Proofs.Relisting

namespace Folio

variable {config : Config} {files : FileTree} {order : TemplateOrder} {cache : Cache}

theorem getLast?_greatest {α : Type} {R : α → α → Prop} {xs : List α} {last : α}
    (ordered : xs.Pairwise R) (h : xs.getLast? = some last) :
    last ∈ xs ∧ ∀ x ∈ xs, x = last ∨ R x last := by
  obtain ⟨front, rfl⟩ := List.getLast?_eq_some_iff.mp h
  rw [List.pairwise_append] at ordered
  refine ⟨by simp, fun x hx => ?_⟩
  rcases List.mem_append.mp hx with hx | hx
  · exact .inr (ordered.2.2 x hx last List.mem_cons_self)
  · exact .inl (List.mem_singleton.mp hx)

namespace Build

/-- The page at the end of a path through names. -/
def pageAt (config : Config) (names : List String) : TemplateFile :=
  .ofPath (config.pagesRoot.through names) config.pagesRoot

theorem pageAt_name {names : List String} {name : String}
    (hnames : ∀ n ∈ names, EntryName n) (hlast : names.getLast? = some name) :
    (pageAt config names).name = name := by
  unfold pageAt TemplateFile.ofPath
  rw [Path.fileName?_through hnames _ hlast]
  rfl

/-- The pages of a site are the files with the extension, in the order of their paths. -/
theorem sources_pages {pages : List TemplateFile} {fragments : List Source}
    (proper : files.Proper) (h : sources config files = .ok (pages, fragments)) :
    ∃ (root : FileTree) (places : List (List String)),
      files.directory config.pagesRoot = .ok root ∧
      pages = places.map (pageAt config) ∧ places.Pairwise PathLt ∧
      (∀ names ∈ places, ∀ name ∈ names, EntryName name) ∧
      ∀ name names, names ∈ places ∧ (pageAt config names).name = name ↔
        root.Holds name names ∧ Discovery.hasExtension config.extension name = true := by
  obtain ⟨root, places, hroot, hproper, rfl, hordered, hplaces⟩ :=
    discoverTemplates_ok proper (sources_eq_ok.mp h).1
  have hname : ∀ {name names}, root.Holds name names → (pageAt config names).name = name :=
    fun h => pageAt_name (h.1.entryName hproper) h.2
  refine ⟨root, places, hroot, rfl, hordered, fun names hnames => ?_, fun name names => ?_⟩
  · obtain ⟨name, hholds, -⟩ := (hplaces names).mp hnames
    exact hholds.1.entryName hproper
  · rw [hplaces]
    constructor
    · rintro ⟨⟨name', hholds, hextension⟩, rfl⟩
      rw [hname hholds]
      exact ⟨hholds, hextension⟩
    · rintro ⟨hholds, hextension⟩
      exact ⟨⟨name, hholds, hextension⟩, hname hholds⟩

section Places

variable {fragments : List Source} {places : List (List String)} {name : String}

theorem get?_places (overwrite : config.collisions = .overwrite)
    (h : (addPages config files order fragments {} (places.map (pageAt config))).result =
      .ok cache) :
    (∃ bundle, cache.get? name = some bundle) ↔
      ∃ names, names ∈ places ∧ (pageAt config names).name = name := by
  have hget := addPages_get? overwrite name h
  cases hlast : lastNamed? name (places.map (pageAt config)) with
  | none =>
      rw [hlast] at hget
      dsimp only at hget
      rw [hget]
      refine iff_of_false (by rintro ⟨bundle, h⟩; cases h) ?_
      rintro ⟨names, hnames, hname⟩
      exact lastNamed?_eq_none_iff.mp hlast _ (List.mem_map_of_mem hnames) hname
  | some page =>
      rw [hlast] at hget
      obtain ⟨bundle, -, hfound⟩ := hget
      obtain ⟨hpage, hname⟩ := lastNamed?_eq_some hlast
      obtain ⟨names, hnames, rfl⟩ := List.mem_map.mp hpage
      exact iff_of_true ⟨bundle, hfound⟩ ⟨names, hnames, hname⟩

/-- The bundle of a name is compiled from the page of the name that has the greatest path. -/
theorem greatest_of_get? {bundle : Bundle} (overwrite : config.collisions = .overwrite)
    (ordered : places.Pairwise PathLt)
    (h : (addPages config files order fragments {} (places.map (pageAt config))).result = .ok cache)
    (hbundle : cache.get? name = some bundle) :
    ∃ names, (names ∈ places ∧ (pageAt config names).name = name) ∧
      (∀ other, other ∈ places ∧ (pageAt config other).name = name →
        other = names ∨ PathLt other names) ∧
      compileBundle config files order fragments (pageAt config names) = .ok bundle := by
  have hget := addPages_get? overwrite name h
  cases hlast : lastNamed? name (places.map (pageAt config)) with
  | none =>
      rw [hlast] at hget
      cases hbundle.symm.trans hget
  | some page =>
      rw [hlast] at hget
      obtain ⟨bundle', hcompiled, hfound⟩ := hget
      cases hbundle.symm.trans hfound
      unfold lastNamed? at hlast
      rw [List.filter_map, List.getLast?_map, Option.map_eq_some_iff] at hlast
      obtain ⟨names, hlast, rfl⟩ := hlast
      obtain ⟨hmem, hgreatest⟩ := getLast?_greatest (ordered.filter _) hlast
      rw [List.mem_filter] at hmem
      refine ⟨names, ⟨hmem.1, by simpa using hmem.2⟩, fun other hother => ?_, hcompiled⟩
      exact hgreatest other (List.mem_filter.mpr ⟨hother.1, by simpa using hother.2⟩)

end Places

end Build

/--
**The page of the greatest path wins.**

Let a site be built with later pages in the place of earlier ones.  Its bundles are known by the
base names of what lies below the pages' root without being a directory, as far as these names end
with the extension; they are listed once each, in the order of their bytes.  The bundle of a name
is compiled from that page of the name whose path below the root is the greatest, with paths
compared name by name and names by their bytes.  And the build is the same in whatever order the
directories list their entries and the bundles their templates.
-/
theorem winner_by_path (proper : files.Proper) (overwrite : config.collisions = .overwrite)
    (built : (buildSite config files order).result = .ok cache) :
    (∀ files' order', files.Relisted files' →
      buildSite config files' order' = buildSite config files order) ∧
    ∃ root pages fragments, files.directory config.pagesRoot = .ok root ∧
      Build.sources config files = .ok (pages, fragments) ∧
      cache.names.Pairwise BytesLt ∧
      (∀ name, name ∈ cache.names ↔
        Discovery.hasExtension config.extension name = true ∧ ∃ names, root.Holds name names) ∧
      ∀ name bundle, cache.get? name = some bundle →
        ∃ names, root.Holds name names ∧
          (∀ other, root.Holds name other → other = names ∨ PathLt other names) ∧
          bundle.page = config.pagesRoot.through names ∧
          bundle.page.stepsBelow config.pagesRoot = names.map .name ∧
          Build.compileBundle config files order fragments
            (.ofPath bundle.page config.pagesRoot) = .ok bundle := by
  have hsame : ∀ files' order', files.Relisted files' →
      buildSite config files' order' = buildSite config files order := by
    intro files' order' h
    rw [← buildSite_relisted h proper config order', buildSite_order_of_ok order' built]
  refine ⟨hsame, ?_⟩
  unfold buildSite at built
  cases hsources : Build.sources config files with
  | error e => rw [hsources] at built; cases built
  | ok found =>
      obtain ⟨pages, fragments⟩ := found
      rw [hsources] at built
      dsimp only at built
      rw [Build.ofSources_result] at built
      obtain ⟨root, places, hroot, rfl, hordered, hentry, hholds⟩ :=
        Build.sources_pages proper hsources
      refine ⟨root, _, fragments, hroot, rfl, cache.keys_bytesLt, fun name => ?_,
        fun name bundle hbundle => ?_⟩
      · rw [Cache.mem_names, Build.get?_places overwrite built]
        simp only [hholds]
        rw [exists_and_right, and_comm]
      · obtain ⟨names, hnamed, hgreatest, hcompiled⟩ :=
          Build.greatest_of_get? overwrite hordered built hbundle
        obtain ⟨hroot, hextension⟩ := (hholds name names).mp hnamed
        have hpage : bundle.page = config.pagesRoot.through names :=
          (Build.compileBundle_origin hcompiled).2
        refine ⟨names, hroot, fun other hother => ?_, hpage, ?_, ?_⟩
        · exact hgreatest other ((hholds name other).mpr ⟨hother, hextension⟩)
        · rw [hpage]
          exact Path.stepsBelow_through (hentry names hnamed.1) _
        · rw [hpage]
          exact hcompiled

/-! ### Two pages of one name -/

section TwoHomes

variable (a b : String)

/-- What lies below the pages' root of `twoHomes`. -/
def homes : FileTree :=
  .dir [("b", .dir [("home.html", .file b.toUTF8)]), ("a", .dir [("home.html", .file a.toUTF8)])]

theorem twoHomes_proper : (twoHomes a b).Proper := by
  have hhome : ∀ text : String, (FileTree.dir [("home.html", .file text.toUTF8)]).Proper :=
    fun text => .single (by decide) (.file _)
  have hpages : (homes a b).Proper := .pair (by decide) (by decide) (by decide) (hhome b) (hhome a)
  exact .pair (by decide) (by decide) (by decide) hpages (.dir .nil (by simp) (by simp))

theorem twoHomes_directory : (twoHomes a b).directory ⟨"pages"⟩ = .ok (homes a b) := by
  rfl

theorem twoHomes_sources : Build.sources (onePageConfig .standard) (twoHomes a b) =
    .ok ([⟨"home.html", "a/home.html", ⟨"pages/a/home.html"⟩⟩,
      ⟨"home.html", "b/home.html", ⟨"pages/b/home.html"⟩⟩], []) := by
  have hsort : ∀ x y : Except DiscoveryError (List Path),
      Discovery.sortByName [("b", x), ("a", y)] = [("a", y), ("b", x)] := by
    intro x y
    have hle : ¬ "b" ≤ "a" := by decide
    simp [Discovery.sortByName, Discovery.insertByName, hle]
  have hpages : discoverTemplates (twoHomes a b) ⟨"pages"⟩ ".html" =
      .ok [⟨"home.html", "a/home.html", ⟨"pages/a/home.html"⟩⟩,
        ⟨"home.html", "b/home.html", ⟨"pages/b/home.html"⟩⟩] := by
    rw [discoverTemplates, discover, twoHomes_directory]
    dsimp only
    rw [homes, Discovery.walkNode, Discovery.walkEntries, Discovery.walkEntries,
      Discovery.walkEntries, hsort]
    rfl
  have hfragments : discoverTemplates (twoHomes a b) ⟨"fragments"⟩ ".html" = .ok [] := by
    rfl
  simp only [Build.sources, onePageConfig, hpages, hfragments, mapError_ok]
  rfl

theorem homes_leaf {names : List String} (h : (homes a b).Leaf names) :
    names = ["a", "home.html"] ∨ names = ["b", "home.html"] := by
  have hhome : ∀ {text : String} {names : List String},
      (FileTree.dir [("home.html", .file text.toUTF8)]).Leaf names → names = ["home.html"] := by
    intro text names h
    cases h with
    | entry mem leaf =>
        cases List.mem_singleton.mp mem
        cases leaf
        rfl
  cases h with
  | entry mem leaf =>
      rcases List.mem_cons.mp mem with heq | mem
      · cases heq
        rw [hhome leaf]
        exact .inr rfl
      · cases List.mem_singleton.mp mem
        rw [hhome leaf]
        exact .inl rfl

end TwoHomes

/-- Of two pages of one name the one with the greater path wins, however they are listed. -/
theorem winner_by_path_homes :
    let files := twoHomes "one" "two"
    files.Proper ∧ (onePageConfig .standard).collisions = .overwrite ∧
      ∀ order, ∃ cache, (buildSite (onePageConfig .standard) files order).result = .ok cache ∧
        (cache.get? "home.html").map Bundle.page = some ⟨"pages/b/home.html"⟩ := by
  intro files
  have hproper := twoHomes_proper "one" "two"
  refine ⟨hproper, rfl, fun order => ?_⟩
  obtain ⟨hread, hread'⟩ := twoHomes_readBytes "one" "two"
  obtain ⟨cache, hcache⟩ : ∃ cache,
      (buildSite (onePageConfig .standard) files order).result = .ok cache := by
    rw [buildSite, twoHomes_sources]
    simp only [Build.ofSources_result]
    refine Build.addPages_of_ok rfl fun p hp => ?_
    rcases List.mem_cons.mp hp with rfl | hp
    · exact Build.compileBundle_plain hread (by decide +kernel) (by decide +kernel)
    · cases List.mem_singleton.mp hp
      exact Build.compileBundle_plain hread' (by decide +kernel) (by decide +kernel)
  obtain ⟨-, root, pages, fragments, hroot, -, -, hnames, hwinner⟩ :=
    winner_by_path hproper rfl hcache
  cases hroot.symm.trans (twoHomes_directory "one" "two")
  have hholds : (homes "one" "two").Holds "home.html" ["b", "home.html"] :=
    ⟨.entry List.mem_cons_self (.entry List.mem_cons_self (.file _)), rfl⟩
  obtain ⟨bundle, hbundle⟩ :=
    Cache.mem_names.mp ((hnames "home.html").mpr ⟨by decide, _, hholds⟩)
  obtain ⟨names, hleaf, hgreatest, hpage, -⟩ := hwinner _ _ hbundle
  refine ⟨cache, hcache, ?_⟩
  rw [hbundle, Option.map_some, hpage]
  rcases homes_leaf _ _ hleaf.1 with rfl | rfl
  · -- The other page would have to come behind this one, but `b` is not before `a`.
    have hnot : ¬ PathLt ["b", "home.html"] ["a", "home.html"] := by
      unfold PathLt
      rw [List.cons_lex_cons_iff]
      rintro (h | ⟨h, -⟩)
      · exact absurd (lt_iff_bytesLt.mpr h) (by decide)
      · exact absurd h (by decide)
    exact absurd (hgreatest _ hholds) (not_or.mpr ⟨by decide, hnot⟩)
  · rfl

end Folio
