/-
What a walk comes to.

A walk that can list every directory on its way finds what has the extension, in the order of the
paths (`DiscoveryOrder`).  If some directory cannot be listed nothing found so far is returned, and
the error names the first of these directories, in the same order (`walkNode_error`).  Below the
directories that cannot be listed nothing is seen, so none of them lies below another one, and their
places, too, can be compared name by name.

Within a directory the results of the walks below it are put together in the order of their names.
The first failure among them (`concat_eq_error`) has only smaller names before it, whose walks have
found no such directory.
-/
import Mathlib.Data.List.Sort
import Folio.Proofs.Relisting

namespace Folio

namespace FileTree

/-- A directory that cannot be listed lies at the end of these names below a node. -/
inductive Unreadable : FileTree → List String → IoFault → Prop
  | here (fault : IoFault) : Unreadable (.unreadable fault) [] fault
  | entry {entries : List (String × FileTree)} {name : String} {node : FileTree}
      {names : List String} {fault : IoFault} (mem : (name, node) ∈ entries)
      (below : Unreadable node names fault) : Unreadable (.dir entries) (name :: names) fault

/-- The first of the directories below a node that cannot be listed. -/
structure FirstUnreadable (node : FileTree) (names : List String) (fault : IoFault) : Prop where
  unreadable : node.Unreadable names fault
  /-- All others come behind it. -/
  first : ∀ names' fault', node.Unreadable names' fault' → names' = names ∨ PathLt names names'

/-- The places below a directory where something with the extension lies, in order. -/
structure Places (node : FileTree) (extension : String) (places : List (List String)) : Prop where
  /-- What lies at a place is no directory, and its name ends with the extension. -/
  complete : ∀ names, names ∈ places ↔ ∃ stem, node.Holds (stem ++ extension) names
  ordered : places.Pairwise PathLt

namespace Places

variable {node : FileTree} {extension : String} {places places' : List (List String)}

theorem entryName (h : node.Places extension places) (proper : node.Proper) :
    ∀ names ∈ places, ∀ name ∈ names, EntryName name := by
  intro names hnames
  obtain ⟨stem, hholds⟩ := (h.complete names).mp hnames
  exact hholds.1.entryName proper

theorem getLast? (h : node.Places extension places) :
    ∀ names ∈ places, ∃ last, names.getLast? = some last := by
  intro names hnames
  obtain ⟨stem, hholds⟩ := (h.complete names).mp hnames
  exact ⟨_, hholds.2⟩

/-- There is only one list of these places. -/
theorem unique (h : node.Places extension places) (h' : node.Places extension places') :
    places = places' := by
  refine h.ordered.eq_of_mem_iff h'.ordered fun names => ?_
  rw [h.complete, h'.complete]

end Places

end FileTree

namespace Discovery

/-! ### Results of several walks -/

section Concat

variable {items : List (String × Except DiscoveryError (List Path))}

theorem ok_of_concat {paths : List Path} (h : concat items = .ok paths) :
    ∀ item ∈ items, ∃ found, item.2 = .ok found := by
  induction items generalizing paths with
  | nil => exact fun item hitem => absurd hitem List.not_mem_nil
  | cons item rest ih =>
      obtain ⟨name, result⟩ := item
      cases result with
      | error e => cases h
      | ok found =>
          rw [concat] at h
          cases hrest : concat rest with
          | error e => rw [hrest] at h; cases h
          | ok later => exact List.forall_mem_cons.mpr ⟨⟨found, rfl⟩, ih hrest⟩

theorem concat_eq_error {e : DiscoveryError} (h : concat items = .error e) :
    ∃ before item after, items = before ++ item :: after ∧
      (∀ b ∈ before, ∃ found, b.2 = .ok found) ∧ item.2 = .error e := by
  induction items with
  | nil => cases h
  | cons item rest ih =>
      obtain ⟨name, result⟩ := item
      cases result with
      | error e' =>
          cases h
          exact ⟨[], (name, .error e), rest, rfl, by simp, rfl⟩
      | ok found =>
          rw [concat] at h
          cases hrest : concat rest with
          | ok later => rw [hrest] at h; cases h
          | error e' =>
              rw [hrest] at h
              cases h
              obtain ⟨before, item, after, rfl, hbefore, hitem⟩ := ih hrest
              exact ⟨(name, .ok found) :: before, item, after, rfl,
                List.forall_mem_cons.mpr ⟨⟨found, rfl⟩, hbefore⟩, hitem⟩

end Concat

/-! ### Walks that succeed and walks that fail -/

variable {extension : String} {node : FileTree}

theorem readable_of_walkNode {names : List String} {fault : IoFault}
    (unreadable : node.Unreadable names fault) :
    ∀ {path : Path} {name : String} {paths : List Path},
      walkNode extension path name node ≠ .ok paths := by
  induction unreadable with
  | here fault => intro path name paths h; cases h
  | @entry entries name node names fault mem _ ih =>
      intro path _ paths h
      rw [walkNode] at h
      have hitem : (name, walkNode extension (path.join name) name node) ∈
          sortByName (walkEntries extension path entries) :=
        sortByName_perm.mem_iff.mpr (mem_walkEntries.mpr ⟨node, mem, rfl⟩)
      obtain ⟨found, hfound⟩ := ok_of_concat h _ hitem
      exact ih hfound

/-- **A walk that fails names the first directory that cannot be listed.** -/
theorem walkNode_error (proper : node.Proper) :
    ∀ {path : Path} {name : String} {e : DiscoveryError},
      walkNode extension path name node = .error e →
      ∃ names fault, node.FirstUnreadable names fault ∧ e = ⟨path.through names, { fault }⟩ := by
  induction proper with
  | file bytes => intro path name e h; cases h
  | link target => intro path name e h; cases h
  | unreadable fault =>
      intro path name e h
      cases h
      refine ⟨[], fault, ⟨.here fault, fun names' fault' h => ?_⟩, rfl⟩
      cases h
      exact .inl rfl
  | @dir entries distinct _ _ ih =>
      intro path _ e h
      rw [walkNode] at h
      have hsorted : (sortByName (walkEntries extension path entries)).Pairwise
          fun a b => a.1 < b.1 :=
        sortByName_sorted (by rw [walkEntries_eq_map, List.map_map]; exact distinct)
      have hmem : ∀ {item}, item ∈ sortByName (walkEntries extension path entries) ↔
          ∃ node, (item.1, node) ∈ entries ∧
            item.2 = walkNode extension (path.join item.1) item.1 node :=
        sortByName_perm.mem_iff.trans mem_walkEntries
      obtain ⟨before, item, after, hsplit, hbefore, hitem⟩ := concat_eq_error h
      rw [hsplit] at hsorted hmem
      obtain ⟨node, hnode, hwalk⟩ := hmem.mp (by simp : item ∈ before ++ item :: after)
      obtain ⟨names, fault, hfirst, rfl⟩ := ih _ hnode (hwalk.symm.trans hitem)
      refine ⟨item.1 :: names, fault, ⟨.entry hnode hfirst.unreadable, ?_⟩, rfl⟩
      intro names' fault' hother
      cases hother with
      | @entry _ name' node' names' _ hnode' hbelow =>
          have hplaced : (name', walkNode extension (path.join name') name' node') ∈
              before ++ item :: after := hmem.mpr ⟨node', hnode', rfl⟩
          rcases List.mem_append.mp hplaced with hfront | hback
          · -- The walks before have succeeded.
            obtain ⟨found, hfound⟩ := hbefore _ hfront
            exact absurd hfound (readable_of_walkNode hbelow)
          · rcases List.mem_cons.mp hback with heq | hlater
            · -- Below the same entry the induction decides.
              have hname : name' = item.1 := congrArg Prod.fst heq
              subst hname
              rw [← FileTree.child?_eq_some_iff distinct] at hnode hnode'
              cases hnode.symm.trans hnode'
              rcases hfirst.first _ _ hbelow with rfl | hlt
              · exact .inl rfl
              · exact .inr (.cons hlt)
            · have hlt := (List.pairwise_cons.mp (List.pairwise_append.mp hsorted).2.1).1
              exact .inr (pathLt_cons (hlt _ hlater))

/-! ### What is listed -/

theorem hasExtension_iff {name : String} :
    hasExtension extension name = true ↔ ∃ stem, name = stem ++ extension := by
  rw [hasExtension, List.isSuffixOf_iff_suffix]
  constructor
  · rintro ⟨stem, hstem⟩
    refine ⟨String.ofList stem, String.toList_inj.mp ?_⟩
    rw [String.toList_append, String.toList_ofList, hstem]
  · rintro ⟨stem, rfl⟩
    exact ⟨stem.toList, String.toList_append.symm⟩

/-- The paths of the files with an extension below a directory, given by the names that lead to them
from there. -/
structure Lists (root : Path) (node : FileTree) (extension : String) (places : List (List String))
    (paths : List Path) : Prop extends node.Places extension places where
  paths_eq : paths = places.map root.through
  /-- No path is listed twice. -/
  nodup : paths.Nodup
  /-- The steps of the paths below the root are the names. -/
  steps : paths.map (·.stepsBelow root) = places.map (·.map .name)

theorem Lists.of_listed {root : Path} {paths : List Path} (proper : node.Proper)
    (h : Listed root (fun names => ∃ name, node.Holds name names ∧
      hasExtension extension name = true) paths) :
    ∃ places, Lists root node extension places paths := by
  obtain ⟨places, rfl, hfound, hordered⟩ := h
  have hplaces : node.Places extension places := by
    refine ⟨fun names => (hfound names).trans ?_, hordered⟩
    constructor
    · rintro ⟨name, hholds, hextension⟩
      obtain ⟨stem, rfl⟩ := hasExtension_iff.mp hextension
      exact ⟨stem, hholds⟩
    · rintro ⟨stem, hholds⟩
      exact ⟨_, hholds, hasExtension_iff.mpr ⟨stem, rfl⟩⟩
  have hentry := hplaces.entryName proper
  refine ⟨places, hplaces, rfl, ?_, ?_⟩
  · -- Equal paths would lead through the same names, and these are in strict order.
    refine List.pairwise_map.mpr (hordered.imp_of_mem fun {names names'} hmem hmem' hlt heq => ?_)
    rw [Path.through_injective (hentry names hmem) (hentry names' hmem') heq] at hlt
    exact pathLt_irrefl _ hlt
  · rw [List.map_map]
    exact List.map_congr_left fun names hnames => Path.stepsBelow_through (hentry names hnames) root

/-! ### The whole walk -/

/-- What a walk from a root that leads to the directory `node` comes to. -/
structure Exact (root : Path) (node : FileTree) (extension : String)
    (result : Except DiscoveryError (List Path)) : Prop where
  /-- If every directory can be listed, it finds what has the extension. -/
  found : (∀ names fault, ¬ node.Unreadable names fault) →
    ∃ places paths, result = .ok paths ∧ Lists root node extension places paths
  /-- If some directory cannot, it finds nothing and names the first of them. -/
  stopped : (∃ names fault, node.Unreadable names fault) →
    ∃ names fault, node.FirstUnreadable names fault ∧
      result = .error ⟨root.through names, { fault }⟩

theorem exact_of_walkable {root : Path} (proper : node.Proper) (walkable : node.Walkable) :
    Exact root node extension (walkNode extension root "" node) := by
  cases hresult : walkNode extension root "" node with
  | ok paths =>
      obtain ⟨places, hlists⟩ := Lists.of_listed proper (listed_of_root proper walkable hresult)
      refine ⟨fun _ => ⟨places, paths, rfl, hlists⟩, ?_⟩
      rintro ⟨names, fault, hunreadable⟩
      exact absurd hresult (readable_of_walkNode hunreadable)
  | error e =>
      obtain ⟨names, fault, hfirst, rfl⟩ := walkNode_error proper hresult
      refine ⟨fun hreadable => ?_, fun _ => ⟨names, fault, hfirst, rfl⟩⟩
      exact absurd hfirst.unreadable (hreadable names fault)

end Discovery

/--
**Discovery lists exactly the matching files, or names what stopped it.**

Let a root be given by any text, relative or absolute, and any extension.  A walk of any directory
to which the root may lead finds, if every directory below can be listed, the paths of all that lies
there without being a directory, as far as the name ends with the extension: each of them once, and
in the order of the names on the way, which are compared one by one by their bytes.  If some
directory cannot be listed nothing is found, and the error names the first such directory in that
order.  In whatever order the directories list their entries, the result is the same.  Discovery in
a tree of files is this walk from where the root leads, and the error names the root if it leads to
no directory.
-/
theorem discover_exact (root : Path) (extension : String) :
    (∀ node : FileTree, node.Proper → node.Walkable →
      Discovery.Exact root node extension (Discovery.walkNode extension root "" node) ∧
      ∀ node', node.Relisted node' → Discovery.walkNode extension root "" node' =
        Discovery.walkNode extension root "" node) ∧
    ∀ files : FileTree, files.Proper →
      (∀ fault, files.directory root = .error fault →
        discover files root extension = .error ⟨root, { fault }⟩) ∧
      (∀ node, files.directory root = .ok node →
        Discovery.Exact root node extension (discover files root extension)) ∧
      ∀ files', files.Relisted files' →
        discover files' root extension = discover files root extension := by
  refine ⟨fun node proper walkable => ⟨?_, fun node' h => ?_⟩,
    fun files proper => ⟨fun fault hroot => ?_, fun node hroot => ?_, fun files' h => ?_⟩⟩
  · exact Discovery.exact_of_walkable proper walkable
  · exact (Discovery.walkNode_relisted h proper root "").symm
  · unfold discover
    rw [hroot]
  · obtain ⟨hproper, walkable⟩ := FileTree.directory_proper proper hroot
    unfold discover
    rw [hroot]
    exact Discovery.exact_of_walkable hproper walkable
  · exact (discover_relisted h proper root extension).symm

/-! ### A tree with directories that cannot be listed -/

section Guarded

open FileTree

/-- A directory that can be walked; one of its pages is a link. -/
def openPages : FileTree :=
  .dir [("b.html", .link "../b"),
    ("a", .dir [("notes.txt", .file .empty), ("p.html", .file .empty)])]

/-- A directory that cannot be walked, with two obstacles. -/
def shutPages : FileTree :=
  .dir [("z", .unreadable .permissionDenied),
    ("a.html", .dir [("p.html", .file .empty), ("y", .unreadable .permissionDenied)])]

def guarded : FileTree := .dir [("shut", shutPages), ("open", openPages)]

theorem guarded_proper : guarded.Proper := by
  have hopen : openPages.Proper := .pair (by decide) (by decide) (by decide) (.link _)
    (.pair (by decide) (by decide) (by decide) (.file _) (.file _))
  have hshut : shutPages.Proper := .pair (by decide) (by decide) (by decide) (.unreadable _)
    (.pair (by decide) (by decide) (by decide) (.file _) (.unreadable _))
  exact .pair (by decide) (by decide) (by decide) hshut hopen

variable {names : List String} {fault : IoFault}

theorem openPages_readable : ¬ openPages.Unreadable names fault := by
  rintro (_ | ⟨mem, below⟩)
  rcases List.mem_cons.mp mem with heq | mem
  · cases heq
    cases below
  · cases List.mem_singleton.mp mem
    cases below with
    | entry mem below =>
        simp only [List.mem_cons, List.not_mem_nil, or_false] at mem
        rcases mem with heq | heq <;> cases heq <;> cases below

theorem shutPages_unreadable (h : shutPages.Unreadable names fault) :
    fault = .permissionDenied ∧ (names = ["a.html", "y"] ∨ names = ["z"]) := by
  cases h with
  | entry mem below =>
      rcases List.mem_cons.mp mem with heq | mem
      · cases heq
        cases below
        exact ⟨rfl, .inr rfl⟩
      · cases List.mem_singleton.mp mem
        cases below with
        | entry mem below =>
            simp only [List.mem_cons, List.not_mem_nil, or_false] at mem
            rcases mem with heq | heq <;> cases heq <;> cases below
            exact ⟨rfl, .inl rfl⟩

/-- A link is listed, and so is a page in a directory. -/
theorem openPages_exact {root : Path} {result : Except DiscoveryError (List Path)}
    (h : Discovery.Exact root openPages ".html" result) :
    ∃ paths, result = .ok paths ∧ root.through ["a", "p.html"] ∈ paths ∧
      root.through ["b.html"] ∈ paths := by
  obtain ⟨places, paths, hpaths, hlists⟩ := h.found fun _ _ => openPages_readable
  have hp : ["a", "p.html"] ∈ places := (hlists.complete _).mpr
    ⟨"p", .entry (.tail _ (.head _)) (.entry (.tail _ (.head _)) (.file _)), rfl⟩
  have hb : ["b.html"] ∈ places :=
    (hlists.complete _).mpr ⟨"b", .entry (.head _) (.link _), rfl⟩
  refine ⟨paths, hpaths, ?_, ?_⟩
  · rw [hlists.paths_eq]
    exact List.mem_map.mpr ⟨_, hp, rfl⟩
  · rw [hlists.paths_eq]
    exact List.mem_map.mpr ⟨_, hb, rfl⟩

/-- Of two obstacles the first one is named, although the other one is listed before it. -/
theorem shutPages_exact {root : Path} {result : Except DiscoveryError (List Path)}
    (h : Discovery.Exact root shutPages ".html" result) :
    result = .error ⟨root.through ["a.html", "y"], { fault := .permissionDenied }⟩ := by
  have hy : shutPages.Unreadable ["a.html", "y"] .permissionDenied :=
    .entry (.tail _ (.head _)) (.entry (.tail _ (.head _)) (.here _))
  obtain ⟨names, fault, hfirst, herror⟩ := h.stopped ⟨_, _, hy⟩
  rw [herror]
  obtain ⟨rfl, rfl | rfl⟩ := shutPages_unreadable hfirst.unreadable
  · rfl
  · -- The other one does not come before this one, for `a.html` is before `z`.
    have hlt : PathLt ["a.html", "y"] ["z"] := pathLt_cons (by decide)
    rcases hfirst.first _ _ hy with heq | hgt
    · exact absurd heq (by decide)
    · exact absurd hgt (pathLt_asymm hlt)

end Guarded

/-- Directories that can be walked and others, from several roots and listed in another order. -/
theorem discover_exact_guarded :
    guarded.Proper ∧
    (∃ paths, discover guarded ⟨"open"⟩ ".html" = .ok paths ∧
      ⟨"open/a/p.html"⟩ ∈ paths ∧ ⟨"open/b.html"⟩ ∈ paths) ∧
    discover guarded ⟨"shut"⟩ ".html" =
      .error ⟨⟨"shut/a.html/y"⟩, { fault := .permissionDenied }⟩ ∧
    discover guarded ⟨"none"⟩ ".html" = .error ⟨⟨"none"⟩, { fault := .notFound }⟩ ∧
    discover (.dir [("open", openPages), ("shut", shutPages)]) ⟨"shut"⟩ ".html" =
      discover guarded ⟨"shut"⟩ ".html" ∧
    ∃ paths, Discovery.walkNode ".html" ⟨"/srv//open"⟩ "" openPages = .ok paths ∧
      ⟨"/srv//open/a/p.html"⟩ ∈ paths := by
  have hroot : guarded.directory ⟨"open"⟩ = .ok openPages := rfl
  have hopen := FileTree.directory_proper guarded_proper hroot
  obtain ⟨-, hfound, -⟩ := (discover_exact ⟨"open"⟩ ".html").2 guarded guarded_proper
  obtain ⟨-, hstopped, hrelisted⟩ := (discover_exact ⟨"shut"⟩ ".html").2 guarded guarded_proper
  refine ⟨guarded_proper, openPages_exact (hfound openPages hroot),
    shutPages_exact (hstopped shutPages rfl), ?_, ?_, ?_⟩
  · exact ((discover_exact ⟨"none"⟩ ".html").2 guarded guarded_proper).1 _ rfl
  · exact hrelisted _ (.perm (.swap ..))
  · obtain ⟨paths, hpaths, hp, -⟩ := openPages_exact
      ((discover_exact ⟨"/srv//open"⟩ ".html").1 openPages hopen.1 hopen.2).1
    exact ⟨paths, hpaths, hp⟩

end Folio
