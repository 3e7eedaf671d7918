/-
Names of templates.

A template is known by the names that lead to it from the root, whatever the text of the root: the
path that the walk puts together has the steps of the root in front, and these are what is taken
away again (`TemplateFile.ofPath_through`).  A root that leads to the same directory by another text
therefore gives its templates the same names.

Two walks of a directory are compared by the places they list (`Discovery.Lists`).  The places in
which something with the extension lies do not depend on the root, and in strict order there is only
one list of them (`FileTree.Places.unique`).
-/
import Folio.Proofs.Respelling
import Folio.Proofs.Walks

namespace Folio

/-! ### One template -/

theorem TemplateFile.ofPath_through {names : List String} {last : String}
    (hnames : ∀ name ∈ names, EntryName name) (hlast : names.getLast? = some last) (root : Path) :
    TemplateFile.ofPath (root.through names) root =
      ⟨last, String.intercalate "/" names, root.through names⟩ := by
  rw [TemplateFile.ofPath, Path.fileName?_through hnames root hlast,
    Path.relativeText_through hnames]
  rfl

/-! ### The templates of a directory -/

/-- The templates found by a walk of `node`, from a root that leads there. -/
def FileTree.templates (node : FileTree) (root : Path) (extension : String) :
    Except DiscoveryError (List TemplateFile) :=
  (Discovery.walkNode extension root "" node).map fun paths =>
    paths.map (TemplateFile.ofPath · root)

theorem discoverTemplates_eq {files node : FileTree} {root : Path} {extension : String}
    (h : files.directory root = .ok node) :
    discoverTemplates files root extension = node.templates root extension := by
  unfold discoverTemplates discover
  rw [h]
  rfl

/-- Templates are told apart by their names, and the last part of the longer one is the other. -/
structure NamesFiles (found : List TemplateFile) : Prop where
  distinct : (found.map (·.relativeName)).Nodup
  last : ∀ file ∈ found, (segments file.relativeName.toList).getLast? = some file.name.toList

/-- Templates of the same names, in the same order. -/
def SameNames (found found' : List TemplateFile) : Prop :=
  found.map (fun file => (file.relativeName, file.name)) =
    found'.map (fun file => (file.relativeName, file.name))

namespace FileTree

variable {node : FileTree} {extension : String} {root root' : Path} {found : List TemplateFile}

/-- **A directory of which all can be listed has its templates at these places, under the names that
lead there.** -/
theorem templates_of_readable (proper : node.Proper) (walkable : node.Walkable)
    (readable : ∀ names fault, ¬ node.Unreadable names fault) :
    ∃ places, node.Places extension places ∧ ∀ root, node.templates root extension =
      .ok (places.map fun names => .ofPath (root.through names) root) := by
  have hwalk : ∀ root, ∃ places, node.Places extension places ∧
      Discovery.walkNode extension root "" node = .ok (places.map root.through) := by
    intro root
    have hexact : Discovery.Exact root node extension _ :=
      Discovery.exact_of_walkable proper walkable
    obtain ⟨places, paths, hpaths, hlists⟩ := hexact.found readable
    rw [hlists.paths_eq] at hpaths
    exact ⟨places, hlists.toPlaces, hpaths⟩
  obtain ⟨places, hplaces, -⟩ := hwalk ⟨""⟩
  refine ⟨places, hplaces, fun root => ?_⟩
  obtain ⟨places', hplaces', hpaths⟩ := hwalk root
  rw [hplaces.unique hplaces', templates, hpaths, Except.map, List.map_map]
  rfl

theorem readable_of_templates (h : node.templates root extension = .ok found) :
    ∀ names fault, ¬ node.Unreadable names fault := by
  intro names fault hunreadable
  obtain ⟨paths, hpaths, -⟩ := map_eq_ok.mp h
  exact Discovery.readable_of_walkNode hunreadable hpaths

variable {places : List (List String)}

/-- The names at these places do not depend on the root. -/
theorem Places.sameNames (h : node.Places extension places) (proper : node.Proper)
    (root root' : Path) :
    SameNames (places.map fun names => .ofPath (root.through names) root)
      (places.map fun names => .ofPath (root'.through names) root') := by
  unfold SameNames
  rw [List.map_map, List.map_map]
  refine List.map_congr_left fun names hnames => ?_
  have hentry := h.entryName proper names hnames
  obtain ⟨last, hlast⟩ := h.getLast? names hnames
  simp only [Function.comp, TemplateFile.ofPath_through hentry hlast]

theorem Places.namesFiles (h : node.Places extension places) (proper : node.Proper) (root : Path) :
    NamesFiles (places.map fun names => .ofPath (root.through names) root) := by
  have hne : ∀ names ∈ places, names ≠ [] := by
    rintro names hnames rfl
    obtain ⟨last, hlast⟩ := h.getLast? _ hnames
    cases hlast
  constructor
  · rw [List.map_map]
    refine List.pairwise_map.mpr (h.ordered.imp_of_mem fun {names names'} hmem hmem' hlt heq => ?_)
    have hentry := h.entryName proper names hmem
    have hentry' := h.entryName proper names' hmem'
    obtain ⟨last, hlast⟩ := h.getLast? names hmem
    obtain ⟨last', hlast'⟩ := h.getLast? names' hmem'
    simp only [Function.comp, TemplateFile.ofPath_through hentry hlast,
      TemplateFile.ofPath_through hentry' hlast'] at heq
    rw [Path.intercalate_injective hentry hentry' (hne _ hmem) (hne _ hmem') heq] at hlt
    exact pathLt_irrefl _ hlt
  · intro file hfile
    obtain ⟨names, hnames, rfl⟩ := List.mem_map.mp hfile
    have hentry := h.entryName proper names hnames
    obtain ⟨last, hlast⟩ := h.getLast? names hnames
    rw [TemplateFile.ofPath_through hentry hlast]
    dsimp only
    rw [Path.segments_intercalate hentry (hne _ hnames), List.getLast?_map, hlast]
    rfl

/-- **A walk tells its templates apart, and from another root it finds templates of the same
names.** -/
theorem templates_from (proper : node.Proper) (walkable : node.Walkable)
    (h : node.templates root extension = .ok found) :
    NamesFiles found ∧ ∀ root', ∃ found', node.templates root' extension = .ok found' ∧
      SameNames found found' := by
  obtain ⟨places, hplaces, htemplates⟩ :=
    templates_of_readable proper walkable (readable_of_templates h)
  cases h.symm.trans (htemplates root)
  refine ⟨hplaces.namesFiles proper root, fun root' => ?_⟩
  exact ⟨_, htemplates root', hplaces.sameNames proper root root'⟩

end FileTree

/-! ### The templates below a root -/

variable {files node : FileTree} {root root' : Path} {extension : String}
  {found : List TemplateFile}

theorem templates_of_discoverTemplates (proper : files.Proper)
    (h : discoverTemplates files root extension = .ok found) :
    ∃ node, files.directory root = .ok node ∧ node.Proper ∧ node.Walkable ∧
      node.templates root extension = .ok found := by
  obtain ⟨node, -, hnode, -⟩ := discoverTemplates_ok proper h
  obtain ⟨hproper, walkable⟩ := FileTree.directory_proper proper hnode
  refine ⟨node, hnode, hproper, walkable, ?_⟩
  rwa [discoverTemplates_eq hnode] at h

/-- Discovery gives the same names to what it finds from roots that lead to one directory. -/
theorem discoverTemplates_from (proper : files.Proper)
    (h : discoverTemplates files root extension = .ok found)
    (hroot : files.directory root = .ok node) (hroot' : files.directory root' = .ok node) :
    ∃ found', discoverTemplates files root' extension = .ok found' ∧ SameNames found found' := by
  obtain ⟨node', hnode', hproper, walkable, htemplates⟩ :=
    templates_of_discoverTemplates proper h
  cases hroot.symm.trans hnode'
  rw [discoverTemplates_eq hroot']
  exact (FileTree.templates_from hproper walkable htemplates).2 root'

/--
**Names of templates do not depend on how the root is written.**

Let a root be given by any text.  A file that some names lead to from the root is known by these
names with slashes between them and by the last of them, and its path is what the walk has put
together.  So a walk of any directory to which the root may lead tells its templates apart, the last
part of the longer name is the shorter one, and from any other root it finds templates of the same
names.

In a tree of files, discovery finds templates of the same names from every root with the same steps,
as long as its text is not empty and no longer than a path may be, and from every root that leads to
the same directory, be it by a step up or by a link.
-/
theorem template_names (root : Path) :
    (∀ (names : List String) (last : String), (∀ name ∈ names, EntryName name) →
      names.getLast? = some last → TemplateFile.ofPath (root.through names) root =
        ⟨last, String.intercalate "/" names, root.through names⟩) ∧
    (∀ (node : FileTree) (extension : String) (found : List TemplateFile),
      node.Proper → node.Walkable → node.templates root extension = .ok found →
      NamesFiles found ∧ ∀ root', ∃ found', node.templates root' extension = .ok found' ∧
        SameNames found found') ∧
    ∀ (files : FileTree) (extension : String) (found : List TemplateFile),
      files.Proper → discoverTemplates files root extension = .ok found →
      NamesFiles found ∧
      (∀ root', root.SameSteps root' → root'.text ≠ "" →
        root'.text.utf8ByteSize ≤ FileTree.pathLimit →
        ∃ found', discoverTemplates files root' extension = .ok found' ∧ SameNames found found') ∧
      ∀ root' node, files.directory root = .ok node → files.directory root' = .ok node →
        ∃ found', discoverTemplates files root' extension = .ok found' ∧
          SameNames found found' := by
  refine ⟨?_, ?_, ?_⟩
  · intro names last hnames hlast
    exact TemplateFile.ofPath_through hnames hlast root
  · intro node extension found proper walkable h
    exact FileTree.templates_from proper walkable h
  · intro files extension found proper h
    obtain ⟨node, hnode, hproper, walkable, htemplates⟩ :=
      templates_of_discoverTemplates proper h
    refine ⟨(FileTree.templates_from hproper walkable htemplates).1, ?_, ?_⟩
    · intro root' same nonempty short
      have hnode' := FileTree.directory_respelled same nonempty short hnode
      exact discoverTemplates_from proper h hnode hnode'
    · intro root' node' hroot hroot'
      exact discoverTemplates_from proper h hroot hroot'

/-! ### One directory under several roots -/

/-- However a root is written, `a/p.html` is the name of the template, and a page is a page. -/
theorem template_names_respelled :
    guarded.Proper ∧
    (∃ found, discoverTemplates guarded ⟨"open"⟩ ".html" = .ok found ∧
      (∃ found', discoverTemplates guarded ⟨".//open/./"⟩ ".html" = .ok found' ∧
        SameNames found found') ∧
      ∃ found', discoverTemplates guarded ⟨"shut/../open"⟩ ".html" = .ok found' ∧
        SameNames found found') ∧
    (∃ found, openPages.templates ⟨"open"⟩ ".html" = .ok found ∧
      ∃ found', openPages.templates ⟨"/srv//open"⟩ ".html" = .ok found' ∧
        SameNames found found') ∧
    TemplateFile.ofPath ⟨"/srv/.//a/p.html"⟩ ⟨"/srv/.//"⟩ =
      ⟨"p.html", "a/p.html", ⟨"/srv/.//a/p.html"⟩⟩ := by
  have hopen : guarded.directory ⟨"open"⟩ = .ok openPages := rfl
  obtain ⟨hproper, walkable⟩ := FileTree.directory_proper guarded_proper hopen
  obtain ⟨places, -, htemplates⟩ : ∃ places, openPages.Places ".html" places ∧ _ :=
    FileTree.templates_of_readable hproper walkable fun _ _ => openPages_readable
  have hfound := (discoverTemplates_eq hopen).trans (htemplates ⟨"open"⟩)
  obtain ⟨-, hwalk, hall⟩ := template_names ⟨"open"⟩
  obtain ⟨-, hspelled, hled⟩ := hall guarded ".html" _ guarded_proper hfound
  refine ⟨guarded_proper, ⟨_, hfound, ?_, ?_⟩, ⟨_, htemplates ⟨"open"⟩, ?_⟩, ?_⟩
  · exact hspelled ⟨".//open/./"⟩ (by decide) (by decide) (by decide)
  · exact hled ⟨"shut/../open"⟩ openPages hopen rfl
  · exact (hwalk openPages ".html" _ hproper walkable (htemplates ⟨"open"⟩)).2 ⟨"/srv//open"⟩
  · exact (template_names ⟨"/srv/.//"⟩).1 ["a", "p.html"] "p.html" (by decide) rfl

end Folio
