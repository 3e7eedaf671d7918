/-
The settings of a site, one by one, and what becomes of them under options.

Six settings are copied from options to a configuration, each in a line of its own.  Here they are
the members of one type (`Setting`), so that what holds of all is said once: a setting has the value
that options give it, and otherwise the one it had (`Config.value_apply`).  Functions follow another
rule, since a name that is not registered again stays bound (`Config.get?_apply`).  A configuration
is known by its settings and its functions (`Config.ext_value`), and so every law of applying
options is shown setting by setting, and of the functions it is a law of merged maps.
-/
import Folio.Config
import Folio.Proofs.Maps

namespace Folio

/-- The settings of a site that are no functions. -/
inductive Setting where
  | fragmentsRoot
  | pagesRoot
  | cacheEnabled
  | extension
  | undefined
  | collisions
  deriving DecidableEq, Repr

/-- What the values of a setting are. -/
def Setting.Value : Setting → Type
  | fragmentsRoot => Path
  | pagesRoot => Path
  | cacheEnabled => Bool
  | extension => String
  | undefined => UndefinedMode
  | collisions => CollisionPolicy

/-- The value of a setting in a configuration. -/
def Config.value (c : Config) : (s : Setting) → s.Value
  | .fragmentsRoot => c.fragmentsRoot
  | .pagesRoot => c.pagesRoot
  | .cacheEnabled => c.cacheEnabled
  | .extension => c.extension
  | .undefined => c.undefined
  | .collisions => c.collisions

/-- The value that options give a setting. -/
def Options.value? (o : Options) : (s : Setting) → Option s.Value
  | .fragmentsRoot => o.fragmentsRoot
  | .pagesRoot => o.pagesRoot
  | .cacheEnabled => o.cacheEnabled
  | .extension => o.extension
  | .undefined => o.undefined
  | .collisions => o.collisions

/-- Changes one setting of a configuration. -/
def Config.change (c : Config) : (s : Setting) → s.Value → Config
  | .fragmentsRoot, root => c.withFragmentsRoot root
  | .pagesRoot, root => c.withPagesRoot root
  | .cacheEnabled, enabled => c.withCache enabled
  | .extension, extension => c.withExtension extension
  | .undefined, mode => c.withUndefined mode
  | .collisions, policy => c.withCollisions policy

/-- Has options change one setting. -/
def Options.change (o : Options) : (s : Setting) → s.Value → Options
  | .fragmentsRoot, root => o.withFragmentsRoot root
  | .pagesRoot, root => o.withPagesRoot root
  | .cacheEnabled, enabled => o.withCache enabled
  | .extension, extension => o.withExtension extension
  | .undefined, mode => o.withUndefined mode
  | .collisions, policy => o.withCollisions policy

/-- The value at the last member of a list that has one. -/
def lastSome? {α β : Type} (f : α → Option β) (xs : List α) : Option β := xs.reverse.findSome? f

theorem lastSome?_cons {α β : Type} {f : α → Option β} {x : α} {xs : List α} :
    lastSome? f (x :: xs) = (lastSome? f xs).or (f x) := by
  rw [lastSome?, List.reverse_cons, List.findSome?_append, List.findSome?_singleton]
  rfl

theorem lastSome?_isSome_iff {α β : Type} {f : α → Option β} {xs : List α} :
    (lastSome? f xs).isSome = true ↔ ∃ x ∈ xs, (f x).isSome = true := by
  rw [lastSome?, List.findSome?_isSome_iff]
  simp only [List.mem_reverse]

section Laws

variable {c c' : Config} {o o' : Options} {os os' : List Options} {s : Setting} {name : String}

theorem Config.ext_value (hvalue : ∀ s, c.value s = c'.value s)
    (hfunctions : c.functions = c'.functions) : c = c' := by
  obtain ⟨fragmentsRoot, pagesRoot, cacheEnabled, extension, undefined, collisions, functions⟩ := c
  obtain ⟨fragmentsRoot', pagesRoot', cacheEnabled', extension', undefined', collisions',
    functions'⟩ := c'
  cases show fragmentsRoot = fragmentsRoot' from hvalue .fragmentsRoot
  cases show pagesRoot = pagesRoot' from hvalue .pagesRoot
  cases show cacheEnabled = cacheEnabled' from hvalue .cacheEnabled
  cases show extension = extension' from hvalue .extension
  cases show undefined = undefined' from hvalue .undefined
  cases show collisions = collisions' from hvalue .collisions
  cases hfunctions
  rfl

/-! ### One step -/

theorem Config.value_apply : (c.apply o).value s = (o.value? s).getD (c.value s) := by
  cases s <;> rfl

theorem Config.get?_apply :
    (c.apply o).functions.get? name = (o.functions.get? name).or (c.functions.get? name) :=
  Dict.get?_merge

theorem Config.mem_names_apply :
    name ∈ (c.apply o).functions.names ↔ name ∈ c.functions.names ∨ name ∈ o.functions.names :=
  Dict.mem_keys_merge

theorem Config.apply_empty : c.apply {} = c := rfl

theorem Config.apply_apply : (c.apply o).apply o = c.apply o := by
  refine ext_value (fun s => ?_) Dict.merge_merge
  rw [value_apply, value_apply]
  cases o.value? s <;> rfl

/-- The two change different settings and register different names. -/
structure Options.Apart (o o' : Options) : Prop where
  settings : ∀ s, o.value? s = none ∨ o'.value? s = none
  functions : ∀ name, o.functions.get? name = none ∨ o'.functions.get? name = none

theorem Config.apply_comm (h : o.Apart o') : (c.apply o).apply o' = (c.apply o').apply o := by
  refine ext_value (fun s => ?_) (Dict.merge_comm h.functions)
  rw [value_apply, value_apply, value_apply, value_apply]
  rcases h.settings s with hnone | hnone
  · rw [hnone, Option.getD_none, Option.getD_none]
  · rw [hnone, Option.getD_none, Option.getD_none]

/-- The options change this setting and nothing else. -/
structure Options.ChangesOnly (o : Options) (s : Setting) (value : s.Value) : Prop where
  value : o.value? s = some value
  others : ∀ s', s' ≠ s → o.value? s' = none
  functions : o.functions = {}

theorem Options.changesOnly_change (s : Setting) (value : s.Value) :
    (change {} s value).ChangesOnly s value := by
  refine ⟨by cases s <;> rfl, fun s' hne => ?_, by cases s <;> rfl⟩
  cases s <;> cases s' <;> first | rfl | exact absurd rfl hne

/-- To change a setting is to apply options that change it. -/
theorem Config.change_eq_apply (s : Setting) (value : s.Value) :
    c.change s value = c.apply (Options.change {} s value) := by
  cases s <;> rfl

/-! ### Many steps -/

theorem Config.applyAll_cons : c.applyAll (o :: os) = (c.apply o).applyAll os := rfl

theorem Config.applyAll_append : c.applyAll (os ++ os') = (c.applyAll os).applyAll os' :=
  List.foldl_append

/-- **A setting has the last value that options give it.** -/
theorem Config.value_applyAll :
    (c.applyAll os).value s = (lastSome? (fun o => o.value? s) os).getD (c.value s) := by
  induction os generalizing c with
  | nil => rfl
  | cons o os ih =>
      rw [applyAll_cons, ih, value_apply, lastSome?_cons]
      cases lastSome? (fun o : Options => o.value? s) os <;> rfl

/-- **A name is bound as options do it last.** -/
theorem Config.get?_applyAll :
    (c.applyAll os).functions.get? name =
      (lastSome? (fun o => o.functions.get? name) os).or (c.functions.get? name) := by
  induction os generalizing c with
  | nil => rfl
  | cons o os ih => rw [applyAll_cons, ih, get?_apply, lastSome?_cons, Option.or_assoc]

theorem Config.mem_names_applyAll :
    name ∈ (c.applyAll os).functions.names ↔
      name ∈ c.functions.names ∨ ∃ o ∈ os, name ∈ o.functions.names := by
  induction os generalizing c with
  | nil => simp [applyAll]
  | cons o os ih =>
      rw [applyAll_cons, ih, mem_names_apply, or_assoc]
      simp

end Laws

/-- **Options are applied one after the other, and what is set last counts.**  This says what each
setting and each name of a function is in the end; the rest are the laws that follow. -/
theorem options_applied (c : Config) (os : List Options) :
    (∀ s, (c.applyAll os).value s = (lastSome? (fun o => o.value? s) os).getD (c.value s)) ∧
    (∀ name, (c.applyAll os).functions.get? name =
      (lastSome? (fun o => o.functions.get? name) os).or (c.functions.get? name)) ∧
    (∀ name, name ∈ (c.applyAll os).functions.names ↔
      name ∈ c.functions.names ∨ ∃ o ∈ os, name ∈ o.functions.names) ∧
    (∀ os', (c.applyAll os).applyAll os' = c.applyAll (os ++ os')) ∧
    c.apply {} = c ∧
    (∀ o, (c.apply o).apply o = c.apply o) ∧
    (∀ o o' after, o.Apart o' →
      c.applyAll (os ++ o :: o' :: after) = c.applyAll (os ++ o' :: o :: after)) ∧
    (∀ s value, (Options.change {} s value).ChangesOnly s value ∧
      c.change s value = c.apply (Options.change {} s value)) ∧
    (∀ name f, c.withFunction name f = c.apply (Options.withFunction {} name f)) ∧
    ∀ registry, c.withFunctions registry = c.apply { functions := registry } := by
  refine ⟨fun s => Config.value_applyAll, fun name => Config.get?_applyAll,
    fun name => Config.mem_names_applyAll, fun os' => Config.applyAll_append.symm,
    Config.apply_empty, fun o => Config.apply_apply, fun o o' after apart => ?_,
    fun s value => ⟨Options.changesOnly_change s value, Config.change_eq_apply s value⟩,
    fun name f => rfl, fun registry => rfl⟩
  rw [Config.applyAll_append, Config.applyAll_append, Config.applyAll_cons, Config.applyAll_cons,
    Config.applyAll_cons, Config.applyAll_cons, Config.apply_comm apart]

/-- Options that keep the bundles and register a function, and options that change the extension and
register another one. -/
theorem options_applied_apart :
    let kept := ((Options.withCache {} true).withFunction "shout" .shout)
    let named := ((Options.withExtension {} ".txt").withFunction "count" .count)
    kept.Apart named ∧ Config.applyAll {} [kept, named] = Config.applyAll {} [named, kept] := by
  have happart : ((Options.withCache {} true).withFunction "shout" .shout).Apart
      ((Options.withExtension {} ".txt").withFunction "count" .count) := by
    constructor
    · intro s
      cases s <;> first | exact Or.inl rfl | exact Or.inr rfl
    · intro name
      by_cases hname : name = "shout"
      · exact Or.inr (by rw [hname]; rfl)
      · exact Or.inl (by simp [Options.withFunction, hname]; rfl)
  obtain ⟨-, -, -, -, -, -, hswap, -⟩ := options_applied {} []
  exact ⟨happart, hswap _ _ [] happart⟩

end Folio
