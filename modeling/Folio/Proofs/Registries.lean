/-
Registries that are filled and merged.

Several registries are told apart by numbers here, and a change inserts into one of them or merges
one into another (`Registry.change`).  Of what that makes of them it matters for merging only that
they are maps in strict order, which is part of their type, so that a registry is known by what it
binds each name to.  Read in this way a merge is a choice at each name (`Dict.get?_merge`): the
entry of the registry that is merged in, if it has one.  The laws of merging are laws of this
choice.
-/
import Mathlib.Logic.Function.Basic
import Folio.Function
import Folio.Proofs.ByteOrder
import Folio.Proofs.Maps

namespace Folio

namespace Registry

/-- A change to one of several registries. -/
inductive Change where
  | insert (target : Nat) (name : String) (f : Function)
  | insertValue (target : Nat) (name : String) (v : Template.Value)
  | merge (target other : Nat)

/-- The registries after a change. -/
def change (registries : Nat → Registry) : Change → Nat → Registry
  | .insert i name f =>
    Function.update registries i ((registries i).insert name (.function f))
  | .insertValue i name v =>
    Function.update registries i ((registries i).insert name (.value v))
  | .merge i j => Function.update registries i ((registries i).merge (registries j))

/-- What the changes make of empty registries. -/
def built (changes : List Change) : Nat → Registry := changes.foldl change fun _ => .empty

variable {r s : Registry} {name : String}

theorem contains_iff : r.contains name = true ↔ ∃ entry, r.get? name = some entry :=
  Option.isSome_iff_exists

theorem mem_names : name ∈ r.names ↔ ∃ entry, r.get? name = some entry := Dict.mem_keys

theorem get?_merge :
    (r.merge s).get? name = if s.contains name then s.get? name else r.get? name := by
  rw [Dict.get?_merge, Dict.contains]
  cases s.get? name <;> rfl

/-- No name is bound in both registries. -/
def Disjoint (r s : Registry) : Prop := ∀ name ∈ r.names, name ∉ s.names

theorem Disjoint.none_or_none (h : r.Disjoint s) (name : String) :
    r.get? name = none ∨ s.get? name = none := by
  cases hr : r.get? name with
  | none => exact .inl rfl
  | some entry =>
      refine .inr (Option.eq_none_iff_forall_ne_some.mpr fun other hs => ?_)
      exact h name (mem_names.mpr ⟨entry, hr⟩) (mem_names.mpr ⟨other, hs⟩)

/-- A merge changes the registry that is merged into, and no other one. -/
theorem built_merge (changes : List Change) (i j : Nat) :
    built (changes ++ [.merge i j]) =
      Function.update (built changes) i ((built changes i).merge (built changes j)) :=
  List.foldl_concat ..

end Registry

/-- **A merge is a union of the names in which the registry that is merged in has precedence.**
This says what a merge does to each name, then the laws of merging, then how a registry is listed,
and last what a merge does to the registries around it. -/
theorem registries_merged (changes : List Registry.Change) (i j k : Nat) :
    let registries := Registry.built changes
    let a := registries i
    let b := registries j
    let c := registries k
    let after := Registry.built (changes ++ [.merge i j])
    (∀ name, (a.merge b).get? name = if b.contains name then b.get? name else a.get? name) ∧
    ((a.merge b).merge c = a.merge (b.merge c)) ∧
    (a.merge .empty = a ∧ Dict.empty.merge a = a) ∧
    (a.merge a = a ∧ (a.merge b).merge b = a.merge b) ∧
    (a.Disjoint b → a.merge b = b.merge a) ∧
    (b.Disjoint c → (a.merge b).merge c = (a.merge c).merge b) ∧
    (∀ name, (a.contains name = true ↔ ∃ entry, a.get? name = some entry) ∧
      ((∃ entry, a.get? name = some entry) ↔ name ∈ a.names)) ∧
    (a.names.Pairwise BytesLt ∧ a.names.length = a.size) ∧
    (a.merge b).size = (a.names.toFinset ∪ b.names.toFinset).card ∧
    (after i = a.merge b ∧ ∀ l, l ≠ i → after l = registries l) := by
  intro registries a b c after
  refine ⟨fun name => Registry.get?_merge, Dict.merge_assoc, ⟨Dict.merge_empty, Dict.empty_merge⟩,
    ⟨Dict.merge_self, Dict.merge_merge⟩, fun h => Dict.merge_swap h.none_or_none,
    fun h => Dict.merge_comm h.none_or_none,
    fun name => ⟨Registry.contains_iff, Registry.mem_names.symm⟩,
    ⟨a.keys_bytesLt, Dict.length_keys⟩, Dict.size_merge, ?_⟩
  have hafter : after = Function.update registries i (a.merge b) := Registry.built_merge changes i j
  rw [hafter]
  exact ⟨Function.update_self .., fun l hl => Function.update_of_ne hl ..⟩

/-- Two registries without a name in common, and one that binds the name of the first again. -/
theorem registries_merged_apart :
    let registries := Registry.built
      [.insert 0 "shout" .shout, .insertValue 1 "limit" (.int 3), .insert 2 "shout" .echo]
    (registries 0).Disjoint (registries 1) ∧ (registries 1).Disjoint (registries 2) ∧
      (registries 0).merge (registries 1) = (registries 1).merge (registries 0) ∧
      ((registries 0).merge (registries 1)).merge (registries 2) =
        ((registries 0).merge (registries 2)).merge (registries 1) := by
  intro registries
  have hleft : (registries 0).Disjoint (registries 1) := by
    show ∀ name ∈ ["shout"], name ∉ ["limit"]
    decide
  have hright : (registries 1).Disjoint (registries 2) := by
    show ∀ name ∈ ["limit"], name ∉ ["shout"]
    decide
  obtain ⟨-, -, -, -, hswap, hcomm, -⟩ := registries_merged
    [.insert 0 "shout" .shout, .insertValue 1 "limit" (.int 3), .insert 2 "shout" .echo] 0 1 2
  exact ⟨hleft, hright, hswap hleft, hcomm hright⟩

end Folio
