/-
The log of a build accounts for every page.

A build reports the registered functions in order, then page by page that the bundle is compiled and
whether the page takes the place of an earlier one, and at last that all is done.  What is replaced
is read here off the pages that came before (`replacement`), whereas the build looks it up among the
bundles that it has so far.  The two agree because under each name the cache holds the last page of
that name (`Keeps`), and this is what the induction over the pages carries along.

So the log can be written down from the pages and the settings (`account`).  It follows that pages
and bundles balance, one warning for each page that is no longer there, and that the warnings of a
name lead from page to page to the one that the cache holds (`build_log`).  A build that fails breaks
off in this log, at the page that gives cause (`Stopped`).
-/
import Folio.Proofs.Bundles
import Folio.Proofs.Collisions
import Folio.Proofs.Maps
import Folio.Proofs.Reports

namespace Folio

/-- The paths of the page that is replaced and of the one that takes its place, if an event tells of
this for pages of a name. -/
def Event.replacedBy? (name : String) : Event → Option (Path × Path)
  | .pageReplaced bundle replaced winner => if bundle = name then some (replaced, winner) else none
  | _ => none

namespace Build

variable {config : Config} {files : FileTree} {order : TemplateOrder} {fragments : List Source}
  {cache cache' : Cache}
  {earlier before after pages : List TemplateFile} {page : TemplateFile} {name : String} {n : Nat}

/-! ### The log, read off the pages -/

/-- What is reported of a page that comes behind others, if one of them has its name: the last one
of these is replaced. -/
def replacement (earlier : List TemplateFile) (page : TemplateFile) : List Event :=
  match lastNamed? page.name earlier with
  | none => []
  | some replaced => [.pageReplaced page.name replaced.path page.path]

/-- What is reported of pages that come behind others, in a site with some number of fragments. -/
def pageEvents (fragments : Nat) (earlier : List TemplateFile) : List TemplateFile → List Event
  | [] => []
  | page :: rest =>
    .bundleCompiled page.name page.path (fragments + 1) ::
      (replacement earlier page ++ pageEvents fragments (earlier ++ [page]) rest)

/-- What a build reports until it is done. -/
def account (config : Config) (fragments : Nat) (pages : List TemplateFile) : List Event :=
  config.functions.names.map Event.functionRegistered ++ pageEvents fragments [] pages

/-- The paths of the pages of a name, in order. -/
def pathsNamed (name : String) (pages : List TemplateFile) : List Path :=
  (pages.filter (·.name = name)).map TemplateFile.path

/-- Every member of a list with the next one. -/
def links {α : Type} (xs : List α) : List (α × α) := xs.zip xs.tail

/-- The warnings among events. -/
def warnings (log : List Event) : List Event := log.filter (·.level = .warn)

theorem lastNamed?_concat : lastNamed? name (earlier ++ [page]) =
    if page.name = name then some page else lastNamed? name earlier := by
  unfold lastNamed?
  rw [List.filter_append]
  by_cases hname : page.name = name
  · rw [if_pos hname, List.filter_cons_of_pos (by simpa using hname), List.filter_nil]
    exact List.getLast?_concat
  · rw [if_neg hname, List.filter_cons_of_neg (by simpa using hname), List.filter_nil,
      List.append_nil]

theorem pageEvents_append : pageEvents n earlier (before ++ after) =
    pageEvents n earlier before ++ pageEvents n (earlier ++ before) after := by
  induction before generalizing earlier with
  | nil => rw [List.nil_append, List.append_nil, pageEvents, List.nil_append]
  | cons page rest ih =>
      rw [List.cons_append, pageEvents, pageEvents, ih, List.cons_append, List.append_assoc,
        List.append_assoc, List.singleton_append]

/-! ### The pages of a name form a chain -/

theorem replacedBy?_replacement : (replacement earlier page).filterMap (Event.replacedBy? name) =
    if page.name = name then
      (lastNamed? name earlier).toList.map fun replaced => (replaced.path, page.path)
    else [] := by
  unfold replacement
  by_cases hname : page.name = name
  · rw [if_pos hname, hname]
    cases lastNamed? name earlier with
    | none => rfl
    | some replaced => simp [Event.replacedBy?]
  · rw [if_neg hname]
    cases lastNamed? page.name earlier with
    | none => rfl
    | some replaced => simp [Event.replacedBy?, hname]

/-- **The warnings of a name lead from page to page**, beginning at the last earlier one. -/
theorem replacedBy?_pageEvents :
    (pageEvents n earlier pages).filterMap (Event.replacedBy? name) =
      links ((lastNamed? name earlier).toList.map TemplateFile.path ++ pathsNamed name pages) := by
  induction pages generalizing earlier with
  | nil =>
      cases lastNamed? name earlier with
      | none => rfl
      | some replaced => rfl
  | cons page rest ih =>
      have hcompiled : Event.replacedBy? name
          (.bundleCompiled page.name page.path (n + 1)) = none := rfl
      rw [pageEvents, List.filterMap_cons_none hcompiled, List.filterMap_append,
        replacedBy?_replacement, ih, lastNamed?_concat]
      unfold pathsNamed
      by_cases hname : page.name = name
      · rw [if_pos hname, if_pos hname, List.filter_cons_of_pos (by simpa using hname)]
        cases lastNamed? name earlier with
        | none => rfl
        | some replaced => rfl
      · rw [if_neg hname, if_neg hname, List.filter_cons_of_neg (by simpa using hname),
          List.nil_append]

/-! ### The cache holds the last page of every name -/

/-- A cache holds, under each name, the last one of the pages of that name. -/
def Keeps (earlier : List TemplateFile) (cache : Cache) : Prop :=
  ∀ name, (cache.get? name).map Bundle.page = (lastNamed? name earlier).map TemplateFile.path

theorem keeps_empty : Keeps [] {} := fun _ => rfl

theorem Keeps.insert (h : Keeps earlier cache) {bundle : Bundle} (hpage : bundle.page = page.path) :
    Keeps (earlier ++ [page]) (cache.insert page.name bundle) := by
  intro name
  rw [Dict.get?_insert, lastNamed?_concat]
  by_cases hname : page.name = name
  · rw [if_pos hname, if_pos hname.symm, Option.map_some, Option.map_some, hpage]
  · rw [if_neg hname, if_neg (Ne.symm hname)]
    exact h name

/-- What a page meets in the cache is the last one of the earlier pages of its name. -/
theorem Keeps.settleCollision (h : Keeps earlier cache) (policy : CollisionPolicy)
    (page : TemplateFile) :
    settleCollision policy cache page = .ok (replacement earlier page) ∨
      ∃ existing, lastNamed? page.name earlier = some existing ∧ policy = .reject ∧
        settleCollision policy cache page =
          .error (.collision page.name existing.path page.path) := by
  have hname := h page.name
  unfold Build.settleCollision replacement
  cases hlast : lastNamed? page.name earlier with
  | none =>
      rw [hlast, Option.map_none, Option.map_eq_none_iff] at hname
      rw [hname]
      exact .inl rfl
  | some existing =>
      rw [hlast, Option.map_some, Option.map_eq_some_iff] at hname
      obtain ⟨bundle, hbundle, hpath⟩ := hname
      rw [hbundle]
      cases policy with
      | overwrite => exact .inl (by simp only [hpath])
      | reject => exact .inr ⟨existing, rfl, rfl, by simp only [hpath]⟩

theorem Keeps.size_insert (h : Keeps earlier cache) (page : TemplateFile) (bundle : Bundle) :
    (warnings (replacement earlier page)).length + (cache.insert page.name bundle).size =
      cache.size + 1 := by
  have hname := h page.name
  rw [Dict.size_insert]
  unfold replacement
  cases hlast : lastNamed? page.name earlier with
  | none =>
      rw [hlast, Option.map_none, Option.map_eq_none_iff] at hname
      rw [if_pos hname]
      exact Nat.zero_add _
  | some existing =>
      rw [hlast, Option.map_some, Option.map_eq_some_iff] at hname
      obtain ⟨held, hheld, -⟩ := hname
      rw [if_neg (by rw [hheld]; exact Option.some_ne_none _)]
      exact Nat.add_comm _ _

/-! ### What adding pages reports -/

/-- Pages behind others have been added to a cache. -/
structure Added (fragments : Nat) (earlier pages : List TemplateFile) (cache cache' : Cache)
    (log : List Event) : Prop where
  events : log = pageEvents fragments earlier pages
  keeps : Keeps (earlier ++ pages) cache'
  balance : (warnings log).length + cache'.size = cache.size + pages.length

/-- Adding pages behind others has failed, and this is what was reported until then: everything of
the pages before the one that gives cause, and of that page that its bundle is compiled if this is
so. -/
inductive Stopped (config : Config) (files : FileTree) (order : TemplateOrder)
    (fragments : List Source) (earlier pages : List TemplateFile) (e : BuildError) :
    List Event → Prop
  | uncompiled {before after : List TemplateFile} {page : TemplateFile}
      (split : pages = before ++ page :: after)
      (first : ∀ p ∈ before, ∃ bundle, compileBundle config files order fragments p = .ok bundle)
      (fails : compileBundle config files order fragments page = .error e) :
      Stopped config files order fragments earlier pages e
        (pageEvents fragments.length earlier before)
  | refused {before after : List TemplateFile} {page existing : TemplateFile} {bundle : Bundle}
      (split : pages = before ++ page :: after)
      (first : ∀ p ∈ before, ∃ bundle, compileBundle config files order fragments p = .ok bundle)
      (compiles : compileBundle config files order fragments page = .ok bundle)
      (policy : config.collisions = .reject)
      (meets : lastNamed? page.name (earlier ++ before) = some existing)
      (error : e = .collision page.name existing.path page.path) :
      Stopped config files order fragments earlier pages e
        (pageEvents fragments.length earlier before ++
          [.bundleCompiled page.name page.path (fragments.length + 1)])

/-- What adding pages reports and what it comes to. -/
def Accounted (config : Config) (files : FileTree) (order : TemplateOrder)
    (fragments : List Source) (earlier pages : List TemplateFile) (cache : Cache)
    (built : Built Cache) : Prop :=
  match built.result with
  | .ok cache' => Added fragments.length earlier pages cache cache' built.log
  | .error e => Stopped config files order fragments earlier pages e built.log

theorem Stopped.cons {e : BuildError} {log : List Event} {bundle : Bundle}
    (hbundle : compileBundle config files order fragments page = .ok bundle)
    (h : Stopped config files order fragments (earlier ++ [page]) pages e log) :
    Stopped config files order fragments earlier (page :: pages) e
      (.bundleCompiled page.name page.path (fragments.length + 1) ::
        (replacement earlier page ++ log)) := by
  have hfirst : ∀ {before : List TemplateFile},
      (∀ p ∈ before, ∃ bundle, compileBundle config files order fragments p = .ok bundle) →
      ∀ p ∈ page :: before, ∃ bundle, compileBundle config files order fragments p = .ok bundle :=
    fun h => List.forall_mem_cons.mpr ⟨⟨bundle, hbundle⟩, h⟩
  cases h with
  | @uncompiled before after last split first fails =>
      have hsplit : page :: pages = (page :: before) ++ last :: after := by
        rw [split, List.cons_append]
      exact .uncompiled hsplit (hfirst first) fails
  | @refused before after last existing bundle' split first compiles policy meets error =>
      have hsplit : page :: pages = (page :: before) ++ last :: after := by
        rw [split, List.cons_append]
      rw [List.append_assoc, List.singleton_append] at meets
      rw [← List.append_assoc, ← List.cons_append]
      exact .refused hsplit (hfirst first) compiles policy meets error

theorem Added.cons {log : List Event} {bundle : Bundle} (h : Keeps earlier cache)
    (hadded : Added n (earlier ++ [page]) pages (cache.insert page.name bundle) cache' log) :
    Added n earlier (page :: pages) cache cache'
      (.bundleCompiled page.name page.path (n + 1) :: (replacement earlier page ++ log)) where
  events := by rw [hadded.events, pageEvents]
  keeps := by
    have hkeeps := hadded.keeps
    rw [List.append_assoc, List.singleton_append] at hkeeps
    exact hkeeps
  balance := by
    have hsize := h.size_insert page bundle
    have hbalance := hadded.balance
    have hcompiled : warnings (.bundleCompiled page.name page.path (n + 1) ::
        (replacement earlier page ++ log)) =
        warnings (replacement earlier page) ++ warnings log := by
      unfold warnings
      rw [List.filter_cons_of_neg (by simp [Event.level]), List.filter_append]
    rw [hcompiled, List.length_append, List.length_cons]
    omega

/-- **Adding pages behind others is accounted for.** -/
theorem addPages_accounted (h : Keeps earlier cache) :
    Accounted config files order fragments earlier pages cache
      (addPages config files order fragments cache pages) := by
  induction pages generalizing earlier cache with
  | nil =>
      refine ⟨rfl, ?_, Nat.zero_add _⟩
      rw [List.append_nil]
      exact h
  | cons page rest ih =>
      rw [addPages]
      cases hbundle : compileBundle config files order fragments page with
      | error e => exact .uncompiled rfl (fun _ hp => absurd hp List.not_mem_nil) hbundle
      | ok bundle =>
          rcases h.settleCollision config.collisions page with hok | hrefused
          · -- The page is added, and the rest is accounted for behind it.
            have hinserted := ih (h.insert (compileBundle_origin hbundle).2)
            rw [hok]
            unfold Accounted at hinserted ⊢
            dsimp only
            rw [List.cons_append]
            cases hresult : (addPages config files order fragments (cache.insert page.name bundle)
                rest).result with
            | ok cache' =>
                rw [hresult] at hinserted
                exact hinserted.cons h
            | error e =>
                rw [hresult] at hinserted
                exact hinserted.cons hbundle
          · obtain ⟨existing, hmeets, hpolicy, herror⟩ := hrefused
            rw [herror]
            refine .refused rfl (fun _ hp => absurd hp List.not_mem_nil) hbundle hpolicy ?_ rfl
            rw [List.append_nil]
            exact hmeets

theorem added_of_ok (h : (addPages config files order fragments {} pages).result = .ok cache) :
    Added fragments.length [] pages {} cache
      (addPages config files order fragments {} pages).log := by
  have haccounted : Accounted config files order fragments [] pages {}
      (addPages config files order fragments {} pages) := addPages_accounted keeps_empty
  unfold Accounted at haccounted
  rw [h] at haccounted
  exact haccounted

theorem stopped_of_error {e : BuildError}
    (h : (addPages config files order fragments {} pages).result = .error e) :
    Stopped config files order fragments [] pages e
      (addPages config files order fragments {} pages).log := by
  have haccounted : Accounted config files order fragments [] pages {}
      (addPages config files order fragments {} pages) := addPages_accounted keeps_empty
  unfold Accounted at haccounted
  rw [h] at haccounted
  exact haccounted

/-- A build that fails breaks off in the log of one that does not. -/
theorem Stopped.isPrefix {e : BuildError} {log : List Event}
    (h : Stopped config files order fragments earlier pages e log) :
    log <+: pageEvents fragments.length earlier pages := by
  cases h with
  | uncompiled split =>
      rw [split, pageEvents_append]
      exact List.prefix_append _ _
  | refused split =>
      rw [split, pageEvents_append, pageEvents]
      exact List.prefix_append_right_inj _ |>.mpr (List.prefix_append [_] _)

end Build

/-! ### The log of a build -/

/-- What the log of a build says that has been successful. -/
structure BuildLog (config : Config) (pages fragments : List TemplateFile) (cache : Cache)
    (log : List Event) : Prop where
  /-- Functions are reported, then pages one after the other, then that the build is done. -/
  events : log = Build.account config fragments.length pages ++
    [.cacheBuilt cache.size fragments.length]
  registered : config.functions.names.Pairwise BytesLt
  balance : (Build.warnings log).length + cache.size = pages.length
  /-- The warnings of a name lead through all pages of the name. -/
  chain : ∀ name, log.filterMap (Event.replacedBy? name) =
    Build.links (Build.pathsNamed name pages)
  /-- The last of these pages is the one that the cache holds. -/
  holder : ∀ name, (cache.get? name).map Bundle.page = (Build.pathsNamed name pages).getLast?

theorem buildLog_of_added {config : Config} {pages fragments : List TemplateFile} {cache : Cache}
    {log : List Event} (h : Build.Added fragments.length [] pages {} cache log) :
    BuildLog config pages fragments cache (config.functions.names.map Event.functionRegistered ++
      log ++ [.cacheBuilt cache.size fragments.length]) where
  events := by rw [h.events, Build.account]
  registered := Dict.keys_bytesLt _
  balance := by
    have hregistered : Build.warnings (config.functions.names.map Event.functionRegistered) = [] := by
      unfold Build.warnings
      rw [List.filter_map, List.filter_eq_nil_iff.mpr]
      · rfl
      · exact fun _ _ => by simp [Event.level]
    have hbalance := h.balance
    have hsize : Dict.size ({} : Cache) = 0 := rfl
    unfold Build.warnings at hregistered hbalance ⊢
    rw [List.filter_append, List.filter_append, hregistered, List.nil_append,
      List.filter_cons_of_neg (by simp [Event.level]), List.filter_nil, List.append_nil]
    omega
  chain name := by
    have hregistered : (config.functions.names.map Event.functionRegistered).filterMap
        (Event.replacedBy? name) = [] := by
      rw [List.filterMap_map]
      exact List.filterMap_eq_nil_iff.mpr fun _ _ => rfl
    rw [List.filterMap_append, List.filterMap_append, hregistered, h.events,
      Build.replacedBy?_pageEvents]
    exact List.append_nil _
  holder name := by
    rw [h.keeps name, Build.pathsNamed, List.getLast?_map]
    rfl

/--
**The log accounts for every page.**

A build that succeeds reports each registered function, in the order of the bytes of their names;
then for each page found, in the order in which they are found, that its bundle is compiled, and if an
earlier page has its name, that it takes the place of the last one of these; and at last, and only
then, that the cache is built, with the number of its bundles and that of the fragments found.  So
there are as many pages as warnings and bundles.  For each name the warnings lead through all pages of
the name, from the first one to the one that the cache holds.

A build that fails reports an initial part of such a log, without that the cache is built.  If the
pages or the fragments cannot be found and read there is nothing in it; otherwise it goes as far as
the page that gives cause.
-/
theorem build_log (config : Config) (files : FileTree) (order : TemplateOrder) :
    (∀ cache, (buildSite config files order).result = .ok cache → ∃ pages fragments,
      discoverTemplates files config.pagesRoot config.extension = .ok pages ∧
      discoverTemplates files config.fragmentsRoot config.extension = .ok fragments ∧
      BuildLog config pages fragments cache (buildSite config files order).log) ∧
    ∀ e, (buildSite config files order).result = .error e →
      (∀ event ∈ (buildSite config files order).log, event.isCacheBuilt = false) ∧
      (Build.sources config files = .error e ∧ (buildSite config files order).log = [] ∨
        ∃ pages fragments log, Build.sources config files = .ok (pages, fragments) ∧
          (buildSite config files order).log =
            config.functions.names.map Event.functionRegistered ++ log ∧
          Build.Stopped config files order fragments [] pages e log ∧
          (buildSite config files order).log <+: Build.account config fragments.length pages) := by
  refine ⟨fun cache hbuilt => ?_, fun e hfailed => ⟨fun event hevent => ?_, ?_⟩⟩
  · obtain ⟨pages, fragments, hsources, hadded⟩ := Build.buildSite_eq_ok.mp hbuilt
    obtain ⟨hpages, found, hfound, hfragments⟩ := Build.sources_eq_ok.mp hsources
    have hlength : fragments.length = found.length := by
      rw [← (Build.readFragments_ok hfragments).1, List.length_map]
    have hadds := Build.added_of_ok hadded
    refine ⟨pages, found, hpages, hfound, ?_⟩
    unfold buildSite
    rw [hsources]
    dsimp only
    unfold Build.ofSources
    dsimp only
    rw [hadded]
    dsimp only
    rw [hlength] at hadds ⊢
    exact buildLog_of_added hadds
  · exact (Event.isProgress_kinds (buildSite_log_error hfailed event hevent)).2
  · unfold buildSite at hfailed ⊢
    cases hsources : Build.sources config files with
    | error e' =>
        rw [hsources] at hfailed
        cases hfailed
        exact .inl ⟨rfl, rfl⟩
    | ok found =>
        obtain ⟨pages, fragments⟩ := found
        rw [hsources] at hfailed
        dsimp only at hfailed ⊢
        rw [Build.ofSources_result] at hfailed
        have hstops := Build.stopped_of_error hfailed
        unfold Build.ofSources
        dsimp only
        rw [hfailed]
        refine .inr ⟨pages, fragments, _, rfl, rfl, hstops, ?_⟩
        exact (List.prefix_append_right_inj _).mpr hstops.isPrefix

end Folio
