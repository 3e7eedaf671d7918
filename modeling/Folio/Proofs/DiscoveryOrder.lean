/-
What a walk finds, and in which order.

A walk is described by the names that lead from its root to what it finds.  The names of one
directory are visited in increasing order, and everything below an entry is found before anything
below the next one; so the lists of names come out in lexicographic order, name by name
(`listed_of_discover`).  That is not the order of the paths as texts: `a/x` lies before `a.b`,
because `a` comes before `a.b`, while a slash comes behind a dot.

The induction is on the tree.  Within a directory the sorted results of the walks below it are
put together by `Listed.cons`, which needs of the names only that each is smaller than the later
ones.
-/
import Folio.Discovery
import Folio.Proofs.ByteOrder
import Folio.Proofs.Fallible
import Folio.Proofs.PathSteps

namespace Folio

/-- Lists of names in lexicographic order, with each name compared by its bytes. -/
def PathLt : List String → List String → Prop := List.Lex BytesLt

theorem pathLt_cons {name name' : String} {names names' : List String} (h : name < name') :
    PathLt (name :: names) (name' :: names') :=
  .rel (lt_iff_bytesLt.mp h)

theorem pathLt_irrefl (names : List String) : ¬ PathLt names names :=
  List.lex_irrefl (fun name h => String.lt_irrefl name (lt_iff_bytesLt.mpr h)) names

theorem pathLt_asymm {names names' : List String} (h : PathLt names names') :
    ¬ PathLt names' names := by
  refine List.lex_asymm (fun {name name'} hlt hgt => ?_) h
  exact String.lt_irrefl name (String.lt_trans (lt_iff_bytesLt.mpr hlt) (lt_iff_bytesLt.mpr hgt))

instance : Std.Irrefl PathLt := ⟨pathLt_irrefl⟩

instance : Std.Asymm PathLt := ⟨fun _ _ => pathLt_asymm⟩

namespace FileTree

/-- What lies below a node without being a directory, by the names that lead to it. -/
inductive Leaf : FileTree → List String → Prop
  | file (bytes : ByteArray) : Leaf (.file bytes) []
  | link (target : String) : Leaf (.link target) []
  | entry {entries : List (String × FileTree)} {name : String} {node : FileTree}
      {names : List String} (mem : (name, node) ∈ entries) (leaf : Leaf node names) :
      Leaf (.dir entries) (name :: names)

/-- A tree as file systems have them: a directory has one entry of a name, and every entry has a
name that can be a step of a path. -/
inductive Proper : FileTree → Prop
  | file (bytes : ByteArray) : Proper (.file bytes)
  | link (target : String) : Proper (.link target)
  | unreadable (fault : IoFault) : Proper (.unreadable fault)
  | dir {entries : List (String × FileTree)} (distinct : (entries.map (·.1)).Nodup)
      (entryName : ∀ e ∈ entries, EntryName e.1) (proper : ∀ e ∈ entries, Proper e.2) :
      Proper (.dir entries)

variable {t node : FileTree} {entries : List (String × FileTree)} {name : String}

theorem Proper.single (hname : EntryName name) (proper : node.Proper) :
    Proper (.dir [(name, node)]) := by
  refine .dir (by simp) ?_ ?_ <;> rw [List.forall_mem_singleton]
  · exact hname
  · exact proper

theorem Proper.pair {name' : String} {node' : FileTree} (hne : name ≠ name')
    (hname : EntryName name) (hname' : EntryName name') (proper : node.Proper)
    (proper' : node'.Proper) : Proper (.dir [(name, node), (name', node')]) := by
  refine .dir (by simp [hne]) ?_ ?_ <;> rw [List.forall_mem_cons, List.forall_mem_singleton]
  · exact ⟨hname, hname'⟩
  · exact ⟨proper, proper'⟩

theorem mem_of_child? (h : child? name entries = some node) : (name, node) ∈ entries := by
  induction entries with
  | nil => cases h
  | cons e rest ih =>
      obtain ⟨n, t⟩ := e
      rw [child?] at h
      split at h
      · next hn =>
        cases h
        rw [hn]
        exact List.mem_cons_self
      · exact List.mem_cons_of_mem _ (ih h)

theorem child?_eq_some_iff (distinct : (entries.map (·.1)).Nodup) :
    child? name entries = some node ↔ (name, node) ∈ entries := by
  refine ⟨mem_of_child?, fun h => ?_⟩
  induction entries with
  | nil => cases h
  | cons e rest ih =>
      obtain ⟨n, t⟩ := e
      rw [List.map_cons, List.nodup_cons] at distinct
      rw [child?]
      rcases List.mem_cons.mp h with heq | h
      · cases heq
        rw [if_pos rfl]
      · rw [if_neg, ih distinct.2 h]
        rintro rfl
        exact distinct.1 (List.mem_map.mpr ⟨_, h, rfl⟩)

theorem Proper.at? {place : List String} : ∀ {t : FileTree}, t.Proper → t.at? place = some node →
    node.Proper := by
  induction place with
  | nil =>
      intro t proper h
      cases h
      exact proper
  | cons name rest ih =>
      intro t proper h
      cases t with
      | dir entries =>
          rw [FileTree.at?, Option.bind_eq_some_iff] at h
          obtain ⟨child, hchild, h⟩ := h
          cases proper with
          | dir _ _ proper => exact ih (proper _ (mem_of_child? hchild)) h
      | file bytes => cases h
      | link target => cases h
      | unreadable fault => cases h

theorem Leaf.entryName {names : List String} (leaf : t.Leaf names) (proper : t.Proper) :
    ∀ name ∈ names, EntryName name := by
  induction leaf with
  | file bytes => intro name h; cases h
  | link target => intro name h; cases h
  | entry mem _ ih =>
      cases proper with
      | dir _ entryName proper =>
          intro name h
          rcases List.mem_cons.mp h with rfl | h
          · exact entryName _ mem
          · exact ih (proper _ mem) name h

end FileTree

namespace Discovery

/-! ### Entries in the order of their names -/

section Sorted

variable {α : Type} {e : String × α} {entries : List (String × α)}

theorem insertByName_perm : (insertByName e entries).Perm (e :: entries) := by
  induction entries with
  | nil => exact .refl _
  | cons f rest ih =>
      rw [insertByName]
      split
      · exact .refl _
      · exact (ih.cons f).trans (.swap e f rest)

theorem sortByName_perm : (sortByName entries).Perm entries := by
  unfold sortByName
  induction entries with
  | nil => exact .refl _
  | cons e rest ih => exact insertByName_perm.trans (ih.cons e)

theorem insertByName_sorted (h : entries.Pairwise fun a b => a.1 ≤ b.1) :
    (insertByName e entries).Pairwise fun a b => a.1 ≤ b.1 := by
  induction entries with
  | nil => exact List.pairwise_singleton _ _
  | cons f rest ih =>
      have hf := List.pairwise_cons.mp h
      rw [insertByName]
      split
      · next hle =>
        refine List.pairwise_cons.mpr ⟨fun a ha => ?_, h⟩
        rcases List.mem_cons.mp ha with rfl | ha
        · exact hle
        · exact String.le_trans hle (hf.1 a ha)
      · next hle =>
        refine List.pairwise_cons.mpr ⟨fun a ha => ?_, ih hf.2⟩
        rcases List.mem_cons.mp (insertByName_perm.mem_iff.mp ha) with rfl | ha
        · exact (String.le_total f.1 a.1).resolve_right hle
        · exact hf.1 a ha

theorem sortByName_sorted (distinct : (entries.map (·.1)).Nodup) :
    (sortByName entries).Pairwise fun a b => a.1 < b.1 := by
  have hle : (sortByName entries).Pairwise fun a b => a.1 ≤ b.1 := by
    unfold sortByName
    clear distinct
    induction entries with
    | nil => exact .nil
    | cons e rest ih => exact insertByName_sorted ih
  have hne : (sortByName entries).Pairwise fun a b => a.1 ≠ b.1 :=
    List.pairwise_map.mp ((sortByName_perm.map _).nodup_iff.mpr distinct)
  refine hle.imp₂ (fun a b hle hne => ?_) hne
  exact String.not_le.mp fun hge => hne (String.le_antisymm hle hge)

end Sorted

/-! ### What walks find -/

/-- The paths lead through the lists of names that `Found` describes, in their order. -/
def Listed (path : Path) (Found : List String → Prop) (paths : List Path) : Prop :=
  ∃ places : List (List String), paths = places.map path.through ∧
    (∀ names, names ∈ places ↔ Found names) ∧ places.Pairwise PathLt

/-- Two lists of paths one after the other, with all of the first one below an entry and all of the
second one below later entries. -/
theorem Listed.cons {path : Path} {name : String} {Found Later : List String → Prop}
    {first later : List Path} (hfirst : Listed (path.join name) Found first)
    (hlater : Listed path Later later)
    (hname : ∀ names, Later names → ∃ name' rest, names = name' :: rest ∧ name < name') :
    Listed path (fun names => (∃ rest, names = name :: rest ∧ Found rest) ∨ Later names)
      (first ++ later) := by
  obtain ⟨places, rfl, hplaces, hordered⟩ := hfirst
  obtain ⟨places', rfl, hplaces', hordered'⟩ := hlater
  refine ⟨places.map (name :: ·) ++ places', ?_, fun names => ?_, ?_⟩
  · rw [List.map_append, List.map_map]
    rfl
  · rw [List.mem_append, List.mem_map, hplaces']
    simp only [hplaces]
    constructor
    · rintro (⟨rest, hrest, rfl⟩ | h)
      · exact .inl ⟨rest, rfl, hrest⟩
      · exact .inr h
    · rintro (⟨rest, rfl, hrest⟩ | h)
      · exact .inl ⟨rest, hrest, rfl⟩
      · exact .inr h
  · rw [List.pairwise_append]
    refine ⟨List.pairwise_map.mpr (hordered.imp .cons), hordered', fun names hnames names' h => ?_⟩
    obtain ⟨rest, -, rfl⟩ := List.mem_map.mp hnames
    obtain ⟨name', rest', rfl, hlt⟩ := hname names' ((hplaces' names').mp h)
    exact pathLt_cons hlt

/-- The results of walks below entries in the order of their names. -/
theorem listed_of_concat {path : Path} {Found : String → List String → Prop}
    {items : List (String × Except DiscoveryError (List Path))} :
    ∀ {paths : List Path}, concat items = .ok paths →
    (∀ item ∈ items, ∀ found, item.2 = .ok found →
      Listed (path.join item.1) (Found item.1) found) →
    (items.Pairwise fun a b => a.1 < b.1) →
    Listed path (fun names => ∃ item ∈ items, ∃ rest, names = item.1 :: rest ∧ Found item.1 rest)
      paths := by
  induction items with
  | nil =>
      intro paths h _ _
      cases h
      exact ⟨[], rfl, by simp, .nil⟩
  | cons item rest ih =>
      intro paths h hitems hsorted
      obtain ⟨name, result⟩ := item
      rw [List.pairwise_cons] at hsorted
      cases result with
      | error e => cases h
      | ok found =>
          rw [concat] at h
          cases hlater : concat rest with
          | error e => rw [hlater] at h; cases h
          | ok later =>
              rw [hlater] at h
              cases h
              have hlisted := ih hlater (fun item hitem => hitems item (.tail _ hitem)) hsorted.2
              have hboth := (hitems _ List.mem_cons_self found rfl).cons hlisted (by
                rintro names ⟨item, hitem, rest, rfl, -⟩
                exact ⟨item.1, rest, rfl, hsorted.1 item hitem⟩)
              simpa [List.exists_mem_cons] using hboth

theorem walkEntries_eq_map (extension : String) (path : Path)
    (entries : List (String × FileTree)) :
    walkEntries extension path entries =
      entries.map fun e => (e.1, walkNode extension (path.join e.1) e.1 e.2) := by
  induction entries with
  | nil => rw [walkEntries, List.map_nil]
  | cons e rest ih => rw [walkEntries, ih, List.map_cons]

theorem mem_walkEntries {extension : String} {path : Path} {entries : List (String × FileTree)}
    {item : String × Except DiscoveryError (List Path)} :
    item ∈ walkEntries extension path entries ↔ ∃ node, (item.1, node) ∈ entries ∧
      item.2 = walkNode extension (path.join item.1) item.1 node := by
  rw [walkEntries_eq_map, List.mem_map]
  constructor
  · rintro ⟨e, he, rfl⟩
    exact ⟨e.2, he, rfl⟩
  · rintro ⟨node, hnode, hitem⟩
    exact ⟨(item.1, node), hnode, by rw [← hitem]⟩

theorem listed_leaf {extension name : String} {path : Path} {node : FileTree}
    (hleaf : ∀ names, node.Leaf names ↔ names = []) :
    Listed path (fun names => node.Leaf names ∧
        hasExtension extension (names.getLast?.getD name) = true)
      (if hasExtension extension name then [path] else []) := by
  simp only [hleaf]
  by_cases h : hasExtension extension name = true
  · rw [if_pos h]
    refine ⟨[[]], rfl, fun names => ?_, List.pairwise_singleton _ _⟩
    rw [List.mem_singleton]
    exact ⟨by rintro rfl; exact ⟨rfl, h⟩, fun hnames => hnames.1⟩
  · rw [if_neg h]
    refine ⟨[], rfl, fun names => ?_, .nil⟩
    simp only [List.not_mem_nil, false_iff, not_and]
    rintro rfl
    exact h

/-- **A walk finds the leaves whose last name has the extension, in lexicographic order.** -/
theorem listed_of_walkNode {extension : String} {node : FileTree} (proper : node.Proper) :
    ∀ {path : Path} {name : String} {paths : List Path},
      walkNode extension path name node = .ok paths →
      Listed path (fun names => node.Leaf names ∧
        hasExtension extension (names.getLast?.getD name) = true) paths := by
  induction proper with
  | file bytes =>
      intro path name paths h
      cases h
      exact listed_leaf fun names => ⟨by rintro ⟨⟩; rfl, by rintro rfl; exact .file bytes⟩
  | link target =>
      intro path name paths h
      cases h
      exact listed_leaf fun names => ⟨by rintro ⟨⟩; rfl, by rintro rfl; exact .link target⟩
  | unreadable fault =>
      intro path name paths h
      cases h
  | @dir entries distinct entryName proper ih =>
      intro path name paths h
      rw [walkNode] at h
      have hsorted : (sortByName (walkEntries extension path entries)).Pairwise
          fun a b => a.1 < b.1 :=
        sortByName_sorted (by rw [walkEntries_eq_map, List.map_map]; exact distinct)
      have hlisted := @listed_of_concat path
        (fun name names => ∃ node, (name, node) ∈ entries ∧ node.Leaf names ∧
          hasExtension extension (names.getLast?.getD name) = true) _ paths h (by
        intro item hitem found hfound
        obtain ⟨node, hnode, hwalk⟩ := mem_walkEntries.mp (sortByName_perm.mem_iff.mp hitem)
        obtain ⟨places, hpaths, hplaces, hordered⟩ := ih _ hnode (hwalk.symm.trans hfound)
        refine ⟨places, hpaths, fun names => (hplaces names).trans ?_, hordered⟩
        constructor
        · exact fun hleaf => ⟨node, hnode, hleaf⟩
        · rintro ⟨node', hnode', hleaf⟩
          rw [← FileTree.child?_eq_some_iff distinct] at hnode hnode'
          cases hnode.symm.trans hnode'
          exact hleaf) hsorted
      obtain ⟨places, hpaths, hplaces, hordered⟩ := hlisted
      refine ⟨places, hpaths, fun names => (hplaces names).trans ?_, hordered⟩
      constructor
      · rintro ⟨item, -, rest, rfl, node, hnode, hleaf, hextension⟩
        refine ⟨.entry hnode hleaf, ?_⟩
        rw [List.getLast?_cons]
        exact hextension
      · rintro ⟨hleaf, hextension⟩
        cases hleaf with
        | @entry _ name node rest hnode hleaf =>
            rw [List.getLast?_cons] at hextension
            refine ⟨(name, walkNode extension (path.join name) name node), ?_, rest, rfl,
              node, hnode, hleaf, hextension⟩
            exact sortByName_perm.mem_iff.mpr (mem_walkEntries.mpr ⟨node, hnode, rfl⟩)

end Discovery

/-! ### Below a root -/

namespace FileTree

/-- Something below a directory that is no directory and whose name is this one. -/
def Holds (root : FileTree) (name : String) (names : List String) : Prop :=
  root.Leaf names ∧ names.getLast? = some name

/-- What can be walked is a directory, even if its entries cannot be listed. -/
inductive Walkable : FileTree → Prop
  | dir (entries : List (String × FileTree)) : Walkable (.dir entries)
  | unreadable (fault : IoFault) : Walkable (.unreadable fault)

theorem Walkable.leaf_ne_nil {node : FileTree} (walkable : node.Walkable) :
    ∀ names, node.Leaf names → names ≠ [] := by
  intro names hleaf
  cases walkable with
  | dir entries =>
      cases hleaf
      exact List.cons_ne_nil _ _
  | unreadable fault => cases hleaf

theorem directory_eq_ok {files node : FileTree} {root : Path} :
    files.directory root = .ok node ↔
      ∃ place, files.resolve root = .ok place ∧ files.at? place = some node ∧ node.Walkable := by
  unfold directory find
  simp only [bind_eq_ok]
  constructor
  · rintro ⟨found, ⟨place, hplace, hfound⟩, h⟩
    refine ⟨place, hplace, ?_⟩
    cases hnode : files.at? place with
    | none => rw [hnode] at hfound; cases hfound
    | some node' =>
        rw [hnode] at hfound
        cases hfound
        cases found with
        | dir entries => cases h; exact ⟨rfl, .dir entries⟩
        | unreadable fault => cases h; exact ⟨rfl, .unreadable fault⟩
        | file bytes => cases h
        | link target => cases h
  · rintro ⟨place, hplace, hnode, walkable⟩
    refine ⟨node, ⟨place, hplace, by rw [hnode]⟩, ?_⟩
    cases walkable with
    | dir entries => rfl
    | unreadable fault => rfl

theorem directory_proper {files node : FileTree} {root : Path} (proper : files.Proper)
    (h : files.directory root = .ok node) : node.Proper ∧ node.Walkable := by
  obtain ⟨place, -, hnode, walkable⟩ := directory_eq_ok.mp h
  exact ⟨proper.at? hnode, walkable⟩

end FileTree

/-- A walk from a root finds the files with the extension, in lexicographic order. -/
theorem Discovery.listed_of_root {node : FileTree} {root : Path} {extension : String}
    {paths : List Path} (proper : node.Proper) (walkable : node.Walkable)
    (h : walkNode extension root "" node = .ok paths) :
    Listed root (fun names => ∃ name, node.Holds name names ∧
      hasExtension extension name = true) paths := by
  obtain ⟨places, hpaths, hplaces, hordered⟩ := listed_of_walkNode proper h
  refine ⟨places, hpaths, fun names => (hplaces names).trans ?_, hordered⟩
  constructor
  · rintro ⟨hleaf, hextension⟩
    cases hlast : names.getLast? with
    | none =>
        exact absurd (List.getLast?_eq_none_iff.mp hlast) (walkable.leaf_ne_nil names hleaf)
    | some last =>
        rw [hlast] at hextension
        exact ⟨last, ⟨hleaf, hlast⟩, hextension⟩
  · rintro ⟨name, ⟨hleaf, hlast⟩, hextension⟩
    rw [hlast]
    exact ⟨hleaf, hextension⟩

/-- **Discovery finds the files with the extension, in lexicographic order.** -/
theorem listed_of_discover {files : FileTree} {root : Path} {extension : String}
    {paths : List Path} (proper : files.Proper) (h : discover files root extension = .ok paths) :
    ∃ node, files.directory root = .ok node ∧ node.Proper ∧
      Discovery.Listed root (fun names => ∃ name, node.Holds name names ∧
        Discovery.hasExtension extension name = true) paths := by
  unfold discover at h
  cases hroot : files.directory root with
  | error fault => rw [hroot] at h; cases h
  | ok node =>
      rw [hroot] at h
      obtain ⟨hproper, walkable⟩ := FileTree.directory_proper proper hroot
      exact ⟨node, rfl, hproper, Discovery.listed_of_root hproper walkable h⟩

/-- The templates found below a root are the files with the extension, in the order of their
paths. -/
theorem discoverTemplates_ok {files : FileTree} {root : Path} {extension : String}
    {found : List TemplateFile} (proper : files.Proper)
    (h : discoverTemplates files root extension = .ok found) :
    ∃ (node : FileTree) (places : List (List String)),
      files.directory root = .ok node ∧ node.Proper ∧
      found = places.map (fun names => .ofPath (root.through names) root) ∧
      places.Pairwise PathLt ∧
      ∀ names, names ∈ places ↔ ∃ name, node.Holds name names ∧
        Discovery.hasExtension extension name = true := by
  unfold discoverTemplates at h
  cases hpaths : discover files root extension with
  | error e => rw [hpaths] at h; cases h
  | ok paths =>
      rw [hpaths] at h
      cases h
      obtain ⟨node, hnode, hproper, places, rfl, hplaces, hordered⟩ :=
        listed_of_discover proper hpaths
      exact ⟨node, places, hnode, hproper, List.map_map, hordered, hplaces⟩

end Folio
