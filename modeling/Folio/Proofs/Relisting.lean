/-
Listing directories in another order.

An operating system may list the entries of a directory in any order.  Two trees that differ in
nothing else (`Relisted`) cannot be told apart: paths lead to the same places in them
(`Relisted.resolve`), files have the same bytes, walks find the same paths
(`Relisted.walkNode`), and so a site is built alike from both of them, with the same errors and
the same events (`buildSite_relisted`).

A relisting is generated from single changes, a directory that is listed in another order and a
node that is relisted inside its directory, so that what it keeps is shown change by change.
-/
import Folio.Proofs.Composition
import Folio.Proofs.DiscoveryOrder

namespace Folio

namespace FileTree

/-- The same tree, with the entries of its directories listed in other orders. -/
inductive Relisted : FileTree → FileTree → Prop
  | refl (t : FileTree) : Relisted t t
  | trans {t u v : FileTree} (first : Relisted t u) (second : Relisted u v) : Relisted t v
  | perm {entries entries' : List (String × FileTree)} (perm : entries.Perm entries') :
      Relisted (.dir entries) (.dir entries')
  | entry {before after : List (String × FileTree)} {name : String} {node node' : FileTree}
      (inside : Relisted node node') :
      Relisted (.dir (before ++ (name, node) :: after)) (.dir (before ++ (name, node') :: after))

/-- Two nodes of the same kind, with relisted nodes under each name. -/
inductive Alike : FileTree → FileTree → Prop
  | file (bytes : ByteArray) : Alike (.file bytes) (.file bytes)
  | link (target : String) : Alike (.link target) (.link target)
  | unreadable (fault : IoFault) : Alike (.unreadable fault) (.unreadable fault)
  | dir {entries entries' : List (String × FileTree)}
      (children : ∀ name, Option.Rel Relisted (child? name entries) (child? name entries')) :
      Alike (.dir entries) (.dir entries')

section Children

variable {entries entries' : List (String × FileTree)} {name : String}

theorem child?_append : child? name (entries ++ entries') =
    (child? name entries).or (child? name entries') := by
  induction entries with
  | nil => rfl
  | cons e rest ih =>
      obtain ⟨n, t⟩ := e
      rw [List.cons_append, child?, child?]
      split
      · rfl
      · exact ih

theorem child?_perm (distinct : (entries.map (·.1)).Nodup) (perm : entries.Perm entries') :
    child? name entries = child? name entries' := by
  have distinct' := (perm.map (·.1)).nodup_iff.mp distinct
  refine Option.ext fun node => ?_
  rw [child?_eq_some_iff distinct, child?_eq_some_iff distinct', perm.mem_iff]

theorem longestIn_append : longestLink.longestIn (entries ++ entries') =
    max (longestLink.longestIn entries) (longestLink.longestIn entries') := by
  induction entries with
  | nil => simp [longestLink.longestIn]
  | cons e rest ih => rw [List.cons_append, longestLink.longestIn, longestLink.longestIn, ih,
      Nat.max_assoc]

theorem longestIn_perm (perm : entries.Perm entries') :
    longestLink.longestIn entries = longestLink.longestIn entries' := by
  induction perm with
  | nil => rfl
  | cons e _ ih => rw [longestLink.longestIn, longestLink.longestIn, ih]
  | swap e f rest => simp only [longestLink.longestIn]; exact Nat.max_left_comm ..
  | trans _ _ ih ih' => exact ih.trans ih'

end Children

theorem Relisted.rel_refl (found : Option FileTree) : Option.Rel Relisted found found := by
  cases found with
  | none => exact .none
  | some node => exact .some (.refl node)

namespace Relisted

variable {t u : FileTree}

theorem none_or_some {a b : Option FileTree} (h : Option.Rel Relisted a b) :
    (a = none ∧ b = none) ∨ ∃ node node', a = some node ∧ b = some node' ∧ Relisted node node' := by
  cases h with
  | none => exact .inl ⟨rfl, rfl⟩
  | some h => exact .inr ⟨_, _, rfl, rfl, h⟩

theorem proper (h : Relisted t u) (proper : t.Proper) : u.Proper := by
  induction h with
  | refl t => exact proper
  | trans _ _ ih ih' => exact ih' (ih proper)
  | perm perm =>
      cases proper with
      | dir distinct entryName proper =>
          exact .dir ((perm.map _).nodup_iff.mp distinct)
            (fun e he => entryName e (perm.mem_iff.mpr he))
            (fun e he => proper e (perm.mem_iff.mpr he))
  | @entry before after name node node' _ ih =>
      cases proper with
      | dir distinct entryName proper =>
          have hmem : ∀ e ∈ before ++ (name, node') :: after,
              e = (name, node') ∨ e ∈ before ++ (name, node) :: after := by
            intro e he
            simp only [List.mem_append, List.mem_cons] at he ⊢
            rcases he with he | he | he
            · exact .inr (.inl he)
            · exact .inl he
            · exact .inr (.inr (.inr he))
          have hnode : (name, node) ∈ before ++ (name, node) :: after := by simp
          refine .dir (by simpa using distinct) (fun e he => ?_) fun e he => ?_
          · rcases hmem e he with rfl | he
            · exact entryName (name, node) hnode
            · exact entryName e he
          · rcases hmem e he with rfl | he
            · exact ih (proper _ hnode)
            · exact proper e he

/-- A relisted node cannot be told apart by looking at it. -/
theorem alike (h : Relisted t u) (proper : t.Proper) : Alike t u := by
  induction h with
  | refl t =>
      cases t with
      | file bytes => exact .file bytes
      | link target => exact .link target
      | unreadable fault => exact .unreadable fault
      | dir entries => exact .dir fun name => rel_refl _
  | trans first _ ih ih' =>
      have halike := ih' (first.proper proper)
      cases ih proper with
      | file bytes => exact halike
      | link target => exact halike
      | unreadable fault => exact halike
      | dir children =>
          cases halike with
          | dir children' =>
              refine .dir fun name => ?_
              have hchild' := children' name
              rcases none_or_some (children name) with ⟨ha, hb⟩ | ⟨node, node', ha, hb, hnode⟩
              · rw [hb] at hchild'
                rw [ha]
                exact hchild'
              · rw [hb] at hchild'
                rw [ha]
                rcases none_or_some hchild' with ⟨hb', -⟩ | ⟨_, node'', hb', hc, hnode'⟩
                · cases hb'
                · cases hb'
                  rw [hc]
                  exact .some (hnode.trans hnode')
  | perm perm =>
      cases proper with
      | dir distinct _ _ =>
          refine .dir fun name => ?_
          rw [child?_perm distinct perm]
          exact rel_refl _
  | @entry before after name node node' inside _ =>
      refine .dir fun n => ?_
      rw [child?_append, child?_append, child?, child?]
      cases child? n before with
      | some found => exact rel_refl _
      | none =>
          rw [Option.none_or, Option.none_or]
          split
          · exact .some inside
          · exact rel_refl _

theorem at? (place : List String) : ∀ {t u : FileTree}, Relisted t u → t.Proper →
    Option.Rel Relisted (t.at? place) (u.at? place) := by
  induction place with
  | nil =>
      intro t u h _
      exact .some h
  | cons name rest ih =>
      intro t u h proper
      cases h.alike proper with
      | file bytes => exact .none
      | link target => exact .none
      | unreadable fault => exact .none
      | @dir entries entries' children =>
          rw [FileTree.at?, FileTree.at?]
          rcases none_or_some (children name) with ⟨ha, hb⟩ | ⟨node, node', ha, hb, hnode⟩
          · rw [ha, hb]
            exact .none
          · rw [ha, hb]
            cases proper with
            | dir _ _ proper => exact ih hnode (proper _ (mem_of_child? ha))

/-! ### Paths -/

theorem longestLink (h : Relisted t u) : t.longestLink = u.longestLink := by
  induction h with
  | refl t => rfl
  | trans _ _ ih ih' => exact ih.trans ih'
  | perm perm =>
      rw [FileTree.longestLink, FileTree.longestLink]
      exact longestIn_perm perm
  | entry _ ih =>
      rw [FileTree.longestLink, FileTree.longestLink, longestIn_append, longestIn_append,
        longestLink.longestIn, longestLink.longestIn, ih]

theorem follow (h : Relisted t u) (proper : t.Proper) : ∀ (fuel links : Nat)
    (place steps : List String), t.follow fuel links place steps = u.follow fuel links place steps
  | 0, _, _, _ => rfl
  | _ + 1, _, _, [] => rfl
  | fuel + 1, links, place, step :: rest => by
      have ih := follow h proper fuel
      rw [FileTree.follow, FileTree.follow]
      rcases none_or_some (h.at? place.reverse proper) with
        ⟨ha, hb⟩ | ⟨node, node', ha, hb, hnode⟩
      · rw [ha, hb]
      · rw [ha, hb]
        have hproper := proper.at? ha
        cases hnode.alike hproper with
        | file bytes => rfl
        | link target => rfl
        | unreadable fault => simp only [ih]
        | @dir entries entries' children =>
            simp only [ih]
            rcases none_or_some (children step) with ⟨ha, hb⟩ | ⟨child, child', ha, hb, hchild⟩
            · rw [ha, hb]
            · rw [ha, hb]
              cases hproper with
              | dir _ _ proper => cases hchild.alike (proper _ (mem_of_child? ha)) <;> rfl

theorem resolve (h : Relisted t u) (proper : t.Proper) (p : Path) : t.resolve p = u.resolve p := by
  unfold FileTree.resolve
  rw [h.longestLink]
  dsimp only
  rw [h.follow proper]

theorem find (h : Relisted t u) (proper : t.Proper) (p : Path) :
    (∃ fault, t.find p = .error fault ∧ u.find p = .error fault) ∨
      ∃ node node', t.find p = .ok node ∧ u.find p = .ok node' ∧ Relisted node node' ∧
        node.Proper := by
  unfold FileTree.find
  rw [h.resolve proper]
  cases u.resolve p with
  | error fault => exact .inl ⟨fault, rfl, rfl⟩
  | ok place =>
      rcases none_or_some (h.at? place proper) with ⟨ha, hb⟩ | ⟨node, node', ha, hb, hnode⟩
      · exact .inl ⟨.notFound, by simp [bind, Except.bind, ha], by simp [bind, Except.bind, hb]⟩
      · exact .inr ⟨node, node', by simp [bind, Except.bind, ha], by simp [bind, Except.bind, hb],
          hnode, proper.at? ha⟩

theorem readBytes (h : Relisted t u) (proper : t.Proper) (p : Path) :
    t.readBytes p = u.readBytes p := by
  unfold FileTree.readBytes
  rcases h.find proper p with ⟨fault, ht, hu⟩ | ⟨node, node', ht, hu, hnode, hproper⟩
  · rw [ht, hu]
  · rw [ht, hu]
    cases hnode.alike hproper <;> rfl

theorem readText (h : Relisted t u) (proper : t.Proper) (p : Path) :
    t.readText p = u.readText p := by
  unfold FileTree.readText
  rw [h.readBytes proper]

theorem directory (h : Relisted t u) (proper : t.Proper) (p : Path) :
    (∃ fault, t.directory p = .error fault ∧ u.directory p = .error fault) ∨
      ∃ node node', t.directory p = .ok node ∧ u.directory p = .ok node' ∧ Relisted node node' ∧
        node.Proper := by
  unfold FileTree.directory
  rcases h.find proper p with ⟨fault, ht, hu⟩ | ⟨node, node', ht, hu, hnode, hproper⟩
  · rw [ht, hu]
    exact .inl ⟨fault, rfl, rfl⟩
  · rw [ht, hu]
    have halike := hnode.alike hproper
    cases halike with
    | file bytes => exact .inl ⟨_, rfl, rfl⟩
    | link target => exact .inl ⟨_, rfl, rfl⟩
    | unreadable fault => exact .inr ⟨_, _, rfl, rfl, hnode, hproper⟩
    | dir children => exact .inr ⟨_, _, rfl, rfl, hnode, hproper⟩

end Relisted

end FileTree

namespace Discovery

/-- The order in which entries of different names are listed does not matter. -/
theorem sortByName_eq_of_perm {α : Type} {entries entries' : List (String × α)}
    (distinct : (entries.map (·.1)).Nodup) (perm : entries.Perm entries') :
    sortByName entries = sortByName entries' := by
  have distinct' := (perm.map (·.1)).nodup_iff.mp distinct
  refine List.Perm.eq_of_pairwise (fun a b _ _ hab hba => ?_) (sortByName_sorted distinct)
    (sortByName_sorted distinct') ((sortByName_perm.trans perm).trans sortByName_perm.symm)
  exact absurd (String.lt_trans hab hba) (String.lt_irrefl _)

/-- A walk through a relisted node finds the same. -/
theorem walkNode_relisted {extension : String} {t u : FileTree} (h : t.Relisted u)
    (proper : t.Proper) : ∀ (path : Path) (name : String),
      walkNode extension path name t = walkNode extension path name u := by
  induction h with
  | refl t => exact fun _ _ => rfl
  | trans first _ ih ih' =>
      exact fun path name => (ih proper path name).trans (ih' (first.proper proper) path name)
  | perm perm =>
      intro path name
      cases proper with
      | dir distinct _ _ =>
          rw [walkNode, walkNode, walkEntries_eq_map, walkEntries_eq_map]
          rw [sortByName_eq_of_perm (by rw [List.map_map]; exact distinct) (perm.map _)]
  | @entry before after name node node' _ ih =>
      intro path _
      cases proper with
      | dir _ _ proper =>
          have hnode := ih (proper (name, node) (by simp)) (path.join name) name
          rw [walkNode, walkNode, walkEntries_eq_map, walkEntries_eq_map, List.map_append,
            List.map_append, List.map_cons, List.map_cons, hnode]

end Discovery

section Site

variable {files files' : FileTree} (h : files.Relisted files') (proper : files.Proper)
include h proper

theorem discover_relisted (root : Path) (extension : String) :
    discover files root extension = discover files' root extension := by
  unfold discover
  rcases h.directory proper root with ⟨fault, ht, hu⟩ | ⟨node, node', ht, hu, hnode, hproper⟩
  · rw [ht, hu]
  · rw [ht, hu]
    exact Discovery.walkNode_relisted hnode hproper root ""

namespace Build

theorem readFragments_relisted (found : List TemplateFile) :
    readFragments files found = readFragments files' found := by
  induction found with
  | nil => rfl
  | cons file rest ih =>
      rw [readFragments, readFragments, ih, readSource, readSource, h.readText proper]

theorem sources_relisted (config : Config) : sources config files = sources config files' := by
  unfold sources discoverTemplates
  rw [discover_relisted h proper, discover_relisted h proper]
  simp only [readFragments_relisted h proper]

theorem addPages_relisted {config : Config} {order : TemplateOrder} {fragments : List Source}
    (pages : List TemplateFile) : ∀ cache : Cache,
    addPages config files order fragments cache pages =
      addPages config files' order fragments cache pages := by
  induction pages with
  | nil => exact fun _ => rfl
  | cons page rest ih =>
      intro cache
      rw [addPages, addPages, compileBundle_congr (h.readText proper page.path)]
      simp only [ih]

end Build

/-- **The order in which directories list their entries does not matter to a build.** -/
theorem buildSite_relisted (config : Config) (order : TemplateOrder) :
    buildSite config files order = buildSite config files' order := by
  unfold buildSite
  rw [Build.sources_relisted h proper]
  cases Build.sources config files' with
  | error e => rfl
  | ok found =>
      dsimp only
      unfold Build.ofSources
      rw [Build.addPages_relisted h proper]

end Site

end Folio
