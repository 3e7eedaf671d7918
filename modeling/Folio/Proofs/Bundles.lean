/-
What is in a bundle.

A bundle is made of the page that it is named after, of all fragments and of the settings of the
site, and nothing else (`bundle_madeOf`).  Two ways of naming templates meet in it: a fragment goes
by its path below the fragments' root, the page by its base name alone.  Different fragments never
meet, because names without slashes can be told from the text that joins them with slashes
(`Path.intercalate_injective`).  A fragment directly below the root may be called like the page, and
then the page hides it; so a bundle always finds its own page and runs the text of that file.

The names that the site registers come before those of the language: whatever no frame of a running
template knows has the value that the site gave it (`Environment.binds_of_get?`).
-/
import Folio.Proofs.Winner

namespace Folio

open Template

/-- At the end of these names below a root lies something that is no directory, and the last name
ends with the extension. -/
def FileTree.HasTemplate (files : FileTree) (root : Path) (extension : String)
    (names : List String) : Prop :=
  ∃ node name, files.directory root = .ok node ∧ node.Holds name names ∧
    Discovery.hasExtension extension name = true

/-- A template is what the text of a file compiles to under a name. -/
structure Template.ReadFrom (files : FileTree) (path : Path) (name : String) (t : Template) :
    Prop where
  name_eq : t.name = name
  source : files.readText path = .ok t.source
  compiled : Template.compile name t.source = .ok t

/-- The value that a template gets for a registered name. -/
def Entry.asValue (name : String) : Entry → Value
  | .function _ => .function name
  | .value v => v

namespace Template.Environment

/-- In an environment a name stands for an entry wherever nothing in front hides it, and a call of
a function calls the one of the entry. -/
structure Binds (env : Environment) (name : String) (entry : Entry) : Prop where
  /-- A name that no frame knows has the value of the entry. -/
  found : ∀ m : Machine, m.frames.findSome? (Run.inFrame? m name) = none →
    ((Run.lookupName? name).run env).run m = .ok (some (entry.asValue name), m)
  /-- Calling this value calls the function of the entry, in the mode of the environment. -/
  called : ∀ f, entry = .function f → ∀ fuel line args,
    (callValue (fuel + 1) line (entry.asValue name) args).run env =
      (do Run.lift line (f.call env.mode (← args.mapM Run.settled)) : Run Value).run env

variable {env : Environment} {name : String} {entry : Entry}

theorem run_read : (read : Run Environment).run env = pure env := rfl

theorem registered?_of_get? (h : env.functions.get? name = some entry) :
    Run.registered? env name = some (entry.asValue name) := by
  unfold Run.registered?
  rw [h]
  cases entry <;> rfl

/-- **Registered names are bound**, also where the language has a function of that name. -/
theorem binds_of_get? (h : env.functions.get? name = some entry) : env.Binds name entry where
  found m hframes := by
    have hget : (get : Run Machine).run env = get := rfl
    unfold Run.lookupName?
    simp only [ReaderT.run_bind, hget, StateT.run_bind, StateT.run_get, pure_bind, hframes,
      run_read, registered?_of_get? h]
    rfl
  called := by
    rintro f rfl fuel line args
    have hfunction : (Entry.function f).asValue name = .function name := rfl
    rw [hfunction, callValue]
    simp only [ReaderT.run_bind, run_read, pure_bind, h, Entry.call]

end Template.Environment

/-! ### Templates below a root -/

namespace FileTree.HasTemplate

variable {files : FileTree} {root : Path} {extension : String} {names names' : List String}

theorem entryNames (h : files.HasTemplate root extension names) (proper : files.Proper) :
    (∀ name ∈ names, EntryName name) ∧ names ≠ [] := by
  obtain ⟨node, name, hnode, hholds, -⟩ := h
  obtain ⟨hproper, walkable⟩ := FileTree.directory_proper proper hnode
  exact ⟨hholds.1.entryName hproper, walkable.leaf_ne_nil names hholds.1⟩

theorem relativeName (h : files.HasTemplate root extension names) (proper : files.Proper) :
    (TemplateFile.ofPath (root.through names) root).relativeName = String.intercalate "/" names :=
  Path.relativeText_through (h.entryNames proper).1 root

theorem eq_of_relativeName (h : files.HasTemplate root extension names)
    (h' : files.HasTemplate root extension names') (proper : files.Proper)
    (heq : String.intercalate "/" names = String.intercalate "/" names') : names = names' := by
  obtain ⟨hentry, hne⟩ := h.entryNames proper
  obtain ⟨hentry', hne'⟩ := h'.entryNames proper
  exact Path.intercalate_injective hentry hentry' hne hne' heq

end FileTree.HasTemplate

section Discovered

variable {files : FileTree} {root : Path} {extension : String} {found : List TemplateFile}
  (proper : files.Proper) (h : discoverTemplates files root extension = .ok found)
include proper h

/-- What is found is described by its place. -/
theorem mem_discovered_iff {file : TemplateFile} : file ∈ found ↔
    ∃ names, files.HasTemplate root extension names ∧
      file = .ofPath (root.through names) root := by
  obtain ⟨node, places, hnode, -, rfl, -, hplaces⟩ := discoverTemplates_ok proper h
  rw [List.mem_map]
  constructor
  · rintro ⟨names, hnames, rfl⟩
    obtain ⟨name, hname⟩ := (hplaces names).mp hnames
    exact ⟨names, ⟨node, name, hnode, hname⟩, rfl⟩
  · rintro ⟨names, ⟨node', name, hnode', hname⟩, rfl⟩
    cases hnode.symm.trans hnode'
    exact ⟨names, (hplaces names).mpr ⟨name, hname⟩, rfl⟩

theorem discovered_distinct : found.Pairwise fun f g => f.relativeName ≠ g.relativeName := by
  obtain ⟨node, places, hnode, -, rfl, hordered, hplaces⟩ := discoverTemplates_ok proper h
  have hplace : ∀ {names}, names ∈ places → files.HasTemplate root extension names := by
    intro names hnames
    obtain ⟨name, hname⟩ := (hplaces names).mp hnames
    exact ⟨node, name, hnode, hname⟩
  refine List.pairwise_map.mpr (hordered.imp_of_mem fun {names names'} hmem hmem' hlt heq => ?_)
  -- Two of the same name would lie at the same place, and the places are in strict order.
  rw [(hplace hmem).relativeName proper, (hplace hmem').relativeName proper] at heq
  rw [(hplace hmem).eq_of_relativeName (hplace hmem') proper heq] at hlt
  exact pathLt_irrefl _ hlt

end Discovered

/-! ### Fragments -/

section Fragments

variable {config : Config} {files : FileTree}

theorem Template.readFrom_of_compile {path : Path} {name text : String} {t : Template}
    (htext : files.readText path = .ok text) (h : Template.compile name text = .ok t) :
    t.ReadFrom files path name := by
  have hcompiled := h
  unfold Template.compile at h
  split at h
  · cases h
    exact ⟨rfl, htext, hcompiled⟩
  · cases h

/-- A source is the text of the fragment at the end of these names. -/
structure Source.IsFragment (config : Config) (files : FileTree) (names : List String)
    (f : Source) : Prop where
  place : files.HasTemplate config.fragmentsRoot config.extension names
  relativeName : f.file.relativeName = String.intercalate "/" names
  path : f.file.path = config.fragmentsRoot.through names
  text : files.readText f.file.path = .ok f.text

namespace Build

variable {pages : List TemplateFile} {fragments : List Source} {page : Path}

theorem readFragments_ok {found : List TemplateFile} :
    ∀ {fragments : List Source}, readFragments files found = .ok fragments →
      fragments.map Source.file = found ∧
        ∀ f ∈ fragments, files.readText f.file.path = .ok f.text := by
  induction found with
  | nil =>
      intro fragments h
      cases h
      exact ⟨rfl, by simp⟩
  | cons file rest ih =>
      intro fragments h
      simp only [readFragments, bind_eq_ok, readSource, mapError_eq_ok] at h
      obtain ⟨text, htext, later, hlater, ⟨⟩⟩ := h
      obtain ⟨hfiles, htexts⟩ := ih hlater
      exact ⟨by rw [List.map_cons, hfiles], List.forall_mem_cons.mpr ⟨htext, htexts⟩⟩

/-- The fragments of a site are what has the extension below their root, each once. -/
theorem sources_fragments (proper : files.Proper)
    (h : sources config files = .ok (pages, fragments)) :
    (fragments.Pairwise fun f g => f.file.relativeName ≠ g.file.relativeName) ∧
    (∀ f ∈ fragments, ∃ names, f.IsFragment config files names) ∧
    ∀ names, files.HasTemplate config.fragmentsRoot config.extension names →
      ∃ f ∈ fragments, f.IsFragment config files names := by
  obtain ⟨-, found, hfound, hfragments⟩ := sources_eq_ok.mp h
  obtain ⟨rfl, htexts⟩ := readFragments_ok hfragments
  have hmem := fun {file} => @mem_discovered_iff _ _ _ _ proper hfound file
  have hfragment : ∀ {names f}, files.HasTemplate config.fragmentsRoot config.extension names →
      f ∈ fragments → f.file = .ofPath (config.fragmentsRoot.through names) config.fragmentsRoot →
      f.IsFragment config files names := by
    intro names f hplace hf hfile
    refine ⟨hplace, ?_, ?_, htexts f hf⟩
    · rw [hfile, hplace.relativeName proper]
    · rw [hfile]
      rfl
  refine ⟨?_, fun f hf => ?_, fun names hplace => ?_⟩
  · have hdistinct := discovered_distinct proper hfound
    rw [List.pairwise_map] at hdistinct
    exact hdistinct
  · obtain ⟨names, hplace, hfile⟩ := hmem.mp (List.mem_map_of_mem hf)
    exact ⟨names, hfragment hplace hf hfile⟩
  · obtain ⟨f, hf, hfile⟩ := List.mem_map.mp (hmem.mpr ⟨names, hplace, rfl⟩)
    exact ⟨f, hf, hfragment hplace hf hfile⟩

section Compiled

variable {templates : Dict Template} (proper : files.Proper)
  (hsources : sources config files = .ok (pages, fragments))
  (h : compileFragments page {} fragments = .ok templates)
include proper hsources h

/-- Every fragment is found under its name below the root. -/
theorem fragment_of_place {names : List String}
    (hplace : files.HasTemplate config.fragmentsRoot config.extension names) :
    ∃ t, templates.get? (String.intercalate "/" names) = some t ∧
      t.ReadFrom files (config.fragmentsRoot.through names) (String.intercalate "/" names) := by
  obtain ⟨distinct, -, hplaced⟩ := sources_fragments proper hsources
  obtain ⟨f, hf, hfragment⟩ := hplaced names hplace
  obtain ⟨before, after, rfl⟩ := List.append_of_mem hf
  have hafter := (List.pairwise_cons.mp (List.pairwise_append.mp distinct).2.1).1
  obtain ⟨t, ht, hget⟩ := compileFragments_get? h fun g hg => (hafter g hg).symm
  rw [hfragment.relativeName] at ht hget
  refine ⟨t, hget, Template.readFrom_of_compile ?_ ht⟩
  rw [← hfragment.path]
  exact hfragment.text

theorem fragment_iff_place {name : String} : (∃ t, templates.get? name = some t) ↔
    ∃ names, files.HasTemplate config.fragmentsRoot config.extension names ∧
      name = String.intercalate "/" names := by
  obtain ⟨-, hfragments, -⟩ := sources_fragments proper hsources
  constructor
  · rintro ⟨t, ht⟩
    rcases compileFragments_origin h ht with ⟨hnone, -⟩ | ⟨before, after, f, rfl, hname, -⟩
    · cases hnone
    · obtain ⟨names, hfragment⟩ := hfragments f (by simp)
      exact ⟨names, hfragment.place, hname.symm.trans hfragment.relativeName⟩
  · rintro ⟨names, hplace, rfl⟩
    obtain ⟨t, ht, -⟩ := fragment_of_place proper hsources h hplace
    exact ⟨t, ht⟩

end Compiled

/-- Every bundle that is added belongs to one of the pages, whatever the policy. -/
theorem addPages_origin {order : TemplateOrder} {name : String} {bundle : Bundle} :
    ∀ {cache cache' : Cache},
      (addPages config files order fragments cache pages).result = .ok cache' →
      cache'.get? name = some bundle →
      cache.get? name = some bundle ∨ ∃ page ∈ pages, page.name = name ∧
        compileBundle config files order fragments page = .ok bundle := by
  induction pages with
  | nil =>
      intro cache cache' h hget
      cases h
      exact .inl hget
  | cons page rest ih =>
      intro cache cache' h hget
      rw [addPages] at h
      split at h
      · cases h
      · rename_i made hmade
        split at h
        · cases h
        · rcases ih h hget with hearlier | ⟨later, hlater, hname, hbundle⟩
          · rw [Dict.get?_insert] at hearlier
            split at hearlier
            · rename_i heq
              cases hearlier
              exact .inr ⟨page, List.mem_cons_self, heq.symm, hmade⟩
            · exact .inl hearlier
          · exact .inr ⟨later, List.mem_cons_of_mem _ hlater, hname, hbundle⟩

end Build

end Fragments

/-! ### Every bundle of a site -/

/-- What a bundle under a key is made of. -/
structure Bundle.MadeOf (config : Config) (files : FileTree) (key : String) (b : Bundle) :
    Prop where
  name : b.name = key
  fileName : b.page.fileName? = some key
  extension : Discovery.hasExtension config.extension key = true
  /-- Its page is a file below the pages' root. -/
  page : ∃ names, files.HasTemplate config.pagesRoot config.extension names ∧
    names.getLast? = some key ∧ b.page = config.pagesRoot.through names
  /-- It has the page under its base name and the fragments under their names below the root. -/
  templateNames : ∀ name, name ∈ b.templateNames ↔ name = key ∨
    ∃ names, files.HasTemplate config.fragmentsRoot config.extension names ∧
      name = String.intercalate "/" names
  /-- Under its own name it has the text of the page, and executing it runs this template. -/
  own : ∃ t, b.env.templates.get? key = some t ∧ t.ReadFrom files b.page key ∧
    ∀ context, b.execute context = b.env.render t context
  /-- Every fragment that the page does not hide is there with the text of its own file. -/
  fragment : ∀ names, files.HasTemplate config.fragmentsRoot config.extension names →
    String.intercalate "/" names ≠ key →
    ∃ t, b.env.templates.get? (String.intercalate "/" names) = some t ∧
      t.ReadFrom files (config.fragmentsRoot.through names) (String.intercalate "/" names)
  mode : b.env.mode = config.undefined
  functions : ∀ name entry, config.functions.get? name = some entry → b.env.Binds name entry

/-- The bundle of a page is made of the page, of the fragments and of the settings. -/
theorem Build.compileBundle_madeOf {config : Config} {files root : FileTree}
    {order : TemplateOrder} {pages : List TemplateFile} {fragments : List Source}
    {names : List String} {key : String} {bundle : Bundle} (proper : files.Proper)
    (hsources : sources config files = .ok (pages, fragments))
    (hroot : files.directory config.pagesRoot = .ok root) (hholds : root.Holds key names)
    (hextension : Discovery.hasExtension config.extension key = true)
    (h : compileBundle config files order fragments (pageAt config names) = .ok bundle) :
    bundle.MadeOf config files key := by
  have hentry := hholds.1.entryName (FileTree.directory_proper proper hroot).1
  have hkey : (pageAt config names).name = key := pageAt_name hentry hholds.2
  obtain ⟨templates, text, t, htemplates, htext, ht, -, rfl⟩ := compileBundle_eq_ok.mp h
  rw [hkey] at ht
  -- The page is compiled last, so its template is the one that its name leads to.
  have hget : ∀ name, (templates.insert (pageAt config names).name t).get? name =
      if name = key then some t else templates.get? name := by
    intro name
    rw [Dict.get?_insert, hkey]
  have hown : (templates.insert (pageAt config names).name t).get? key = some t := by
    rw [hget, if_pos rfl]
  exact {
    name := hkey
    fileName := Path.fileName?_through hentry _ hholds.2
    extension := hextension
    page := ⟨names, ⟨root, key, hroot, hholds, hextension⟩, hholds.2, rfl⟩
    templateNames := by
      intro name
      rw [Bundle.templateNames, Dict.mem_keys, ← fragment_iff_place proper hsources htemplates]
      simp only [hget]
      by_cases hname : name = key
      · simp [hname]
      · simp only [hname, if_false, false_or]
    own := by
      refine ⟨t, hown, Template.readFrom_of_compile htext ht, fun context => ?_⟩
      simp only [Bundle.execute, hkey] at hown ⊢
      rw [hown]
    fragment := by
      intro names' hplace hne
      obtain ⟨u, hu, hread⟩ := fragment_of_place proper hsources htemplates hplace
      exact ⟨u, by rw [hget, if_neg hne, hu], hread⟩
    mode := rfl
    functions := fun name entry hentry => Environment.binds_of_get? hentry }

/--
**What is in the bundles of a site.**

Let a site be built, with whatever settings, and let a bundle be kept under a key.  The key is the
bundle's name and the base name of its page, a file below the pages' root, and it ends with the
extension.  The templates of the bundle are the fragments under their names below their root, and
the page under its base name.  The page comes last: its template has the text of its file also
where a fragment is called like it, and this is the template that executing the bundle runs.  Every
other fragment has the text of its own file.  The bundle treats what is missing as the site is
configured to, and every registered name stands for what is registered under it, also where the
language has a function of that name.
-/
theorem bundle_madeOf {config : Config} {files : FileTree} {order : TemplateOrder}
    {cache : Cache} {key : String} {bundle : Bundle} (proper : files.Proper)
    (built : (buildSite config files order).result = .ok cache)
    (kept : cache.get? key = some bundle) : bundle.MadeOf config files key := by
  obtain ⟨pages, fragments, hsources, hadded⟩ := Build.buildSite_eq_ok.mp built
  obtain ⟨root, places, hroot, rfl, -, -, hholds⟩ := Build.sources_pages proper hsources
  rcases Build.addPages_origin hadded kept with hnone | ⟨page, hpage, hname, hbundle⟩
  · cases hnone
  · obtain ⟨names, hnames, rfl⟩ := List.mem_map.mp hpage
    obtain ⟨hroot', hextension⟩ := (hholds key names).mp ⟨hnames, hname⟩
    exact Build.compileBundle_madeOf proper hsources hroot hroot' hextension hbundle

/-! ### A fragment called like the page -/

/-- A site whose page is called like one of its fragments and includes another one. -/
def hiddenHome : FileTree :=
  .dir [("pages", .dir [("home.html", .file "\x7b% include 'parts/nav.html' %\x7d".toUTF8)]),
    ("fragments", .dir [("home.html", .file "hidden".toUTF8),
      ("parts", .dir [("nav.html", .file "\x7b\x7b range() \x7d\x7d".toUTF8)])])]

theorem hiddenHome_proper : hiddenHome.Proper := by
  have hnav : (FileTree.dir [("nav.html", .file "\x7b\x7b range() \x7d\x7d".toUTF8)]).Proper :=
    .single (by decide) (.file _)
  exact .pair (by decide) (by decide) (by decide) (.single (by decide) (.file _))
    (.pair (by decide) (by decide) (by decide) (.file _) hnav)

/-- A page hides the fragment that is called like it, and a function of the site the one of the
language. -/
theorem bundle_madeOf_hidden :
    let config : Config := {
      pagesRoot := ⟨"pages"⟩
      fragmentsRoot := ⟨"fragments"⟩
      functions := Registry.standard.insert "range" (.function (.constant "ours")) }
    ∃ cache bundle, hiddenHome.Proper ∧
      (buildSite config hiddenHome .byName).result = .ok cache ∧
      cache.get? "home.html" = some bundle ∧ bundle.MadeOf config hiddenHome "home.html" ∧
      bundle.templateNames = ["home.html", "parts/nav.html"] ∧
      bundle.execute (.ofJson ({} : View).toJson) = .ok "ours" := by
  intro config
  have hhome : (((buildSite config hiddenHome .byName).result.toOption.bind
      (·.get? "home.html")).bind fun bundle =>
        (bundle.execute (.ofJson ({} : View).toJson)).toOption.map
          fun text => (bundle.templateNames, text)) =
      some (["home.html", "parts/nav.html"], "ours") := by
    decide +kernel
  obtain ⟨bundle, hbundle, hhome⟩ := Option.bind_eq_some_iff.mp hhome
  obtain ⟨cache, hcache, hget⟩ := Option.bind_eq_some_iff.mp hbundle
  obtain ⟨text, htext, heq⟩ := Option.map_eq_some_iff.mp hhome
  obtain ⟨hnames, rfl⟩ := Prod.mk.inj heq
  have hbuilt := toOption_eq_some.mp hcache
  exact ⟨cache, bundle, hiddenHome_proper, hbuilt, hget,
    bundle_madeOf hiddenHome_proper hbuilt hget, hnames, toOption_eq_some.mp htext⟩

end Folio
