/-
Laws of maps from names to values.

A map is known by what it binds names to (`Dict.ext_get?`), since its entries are kept in strict
order.  So laws about maps are shown by reading both sides at a name: bindings of different names
can be made in any order, and of two bindings of a name the later one stays.  A binding makes the
map larger by one entry unless its name was bound before (`Dict.size_insert`).  Of two maps that are
merged the second one counts where both bind a name (`Dict.get?_merge`), and entries with different
names make a map in which all of them count (`Dict.get?_ofList`).
-/
import Mathlib.Data.Finset.Card
import Mathlib.Data.List.Sort
import Folio.Dict

namespace Folio

namespace Dict

universe u

variable {α : Type u} {d e : Dict α} {key key' name : String} {value value' : α}

theorem ext_get? (h : ∀ name, d.get? name = e.get? name) : d = e := by
  have hirrefl : Std.Irrefl fun a b : String × α => a.1 < b.1 := ⟨fun a => String.lt_irrefl a.1⟩
  have hasymm : Std.Asymm fun a b : String × α => a.1 < b.1 := ⟨fun _ _ => String.lt_asymm⟩
  have hmem : ∀ entry : String × α, entry ∈ d.entries ↔ entry ∈ e.entries := by
    intro entry
    rw [← get?_eq_some_iff, ← get?_eq_some_iff, h]
  exact ext_entries (List.Pairwise.eq_of_mem_iff d.ordered e.ordered hmem)

theorem get?_insert_or : (d.insert key value).get? name =
    (if name = key then some value else none).or (d.get? name) := by
  rw [get?_insert]
  by_cases hname : name = key
  · rw [if_pos hname, if_pos hname, Option.some_or]
  · rw [if_neg hname, if_neg hname, Option.none_or]

theorem insert_comm (h : key ≠ key') :
    (d.insert key value).insert key' value' = (d.insert key' value').insert key value := by
  refine ext_get? fun name => ?_
  rw [get?_insert, get?_insert, get?_insert, get?_insert]
  by_cases hname : name = key
  · have hname' : name ≠ key' := fun heq => h (hname.symm.trans heq)
    rw [if_neg hname', if_pos hname, if_pos hname]
  · rw [if_neg hname, if_neg hname]

theorem insert_insert : (d.insert key value).insert key value' = d.insert key value' := by
  refine ext_get? fun name => ?_
  rw [get?_insert, get?_insert, get?_insert]
  by_cases hname : name = key
  · rw [if_pos hname, if_pos hname]
  · rw [if_neg hname, if_neg hname, if_neg hname]

theorem forall_insert (p : α → Prop) (hvalue : p value) (h : ∀ entry ∈ d.entries, p entry.2) :
    ∀ entry ∈ (d.insert key value).entries, p entry.2 := by
  intro entry hentry
  have hget := get?_eq_some_iff.mpr hentry
  rw [get?_insert] at hget
  by_cases hname : entry.1 = key
  · rw [if_pos hname] at hget
    rw [← Option.some.inj hget]
    exact hvalue
  · rw [if_neg hname] at hget
    exact h entry (get?_eq_some_iff.mp hget)

theorem lookup?_eq_none {entries : List (String × α)} (h : Ordered entries)
    (hbefore : ∀ entry ∈ entries, key < entry.1) : lookup? key entries = none := by
  refine Option.eq_none_iff_forall_ne_some.mpr fun found hfound => ?_
  have hmem := (lookup?_eq_some_iff h).mp hfound
  exact String.lt_irrefl key (hbefore _ hmem)

theorem length_assign {entries : List (String × α)} (h : Ordered entries) :
    (assign key value entries).length =
      if lookup? key entries = none then entries.length + 1 else entries.length := by
  induction entries with
  | nil => rfl
  | cons first rest ih =>
      obtain ⟨hfirst, hrest⟩ := List.pairwise_cons.mp h
      rw [assign, lookup?]
      by_cases hlt : key < first.1
      · -- The name comes before all names that are bound.
        have hne : first.1 ≠ key := fun heq => String.lt_irrefl key (heq ▸ hlt)
        have hnone := lookup?_eq_none hrest fun entry hentry =>
          String.lt_trans hlt (hfirst entry hentry)
        rw [if_pos hlt, if_neg hne, if_pos hnone]
        rfl
      · rw [if_neg hlt]
        by_cases heq : key = first.1
        · rw [if_pos heq, if_pos heq.symm, if_neg (Option.some_ne_none _)]
          rfl
        · rw [if_neg heq, if_neg (Ne.symm heq), List.length_cons, ih hrest]
          by_cases hnone : lookup? key rest = none
          · rw [if_pos hnone, if_pos hnone]
            rfl
          · rw [if_neg hnone, if_neg hnone]
            rfl

theorem size_insert :
    (d.insert key value).size = if d.get? key = none then d.size + 1 else d.size :=
  length_assign d.ordered

theorem isEmpty_eq_false_iff :
    d.isEmpty = false ↔ ∃ name value, d.get? name = some value := by
  simp only [get?_eq_some_iff, isEmpty, List.isEmpty_eq_false_iff_exists_mem, Prod.exists]

theorem length_keys : d.keys.length = d.size := List.length_map _

/-! ### Maps put together -/

theorem nodup_keys_of_ordered {entries : List (String × α)} (h : Ordered entries) :
    (entries.map Prod.fst).Nodup := by
  refine List.pairwise_map.mpr (h.imp fun hlt heq => ?_)
  exact String.lt_irrefl _ (heq ▸ hlt)

theorem lookup?_eq_none_iff {entries : List (String × α)} :
    lookup? key entries = none ↔ key ∉ entries.map Prod.fst := by
  induction entries with
  | nil => simp [lookup?]
  | cons first rest ih =>
      rw [lookup?, List.map_cons, List.mem_cons, not_or, ← ih]
      by_cases hname : first.1 = key
      · simp [hname]
      · simp [hname, Ne.symm hname]

theorem lookup?_map {β : Type u} {f : α → β} {entries : List (String × α)} :
    lookup? key (entries.map fun entry => (entry.1, f entry.2)) = (lookup? key entries).map f := by
  induction entries with
  | nil => rfl
  | cons first rest ih =>
      rw [List.map_cons, lookup?, lookup?, ih]
      by_cases hname : first.1 = key
      · rw [if_pos hname, if_pos hname]
        rfl
      · rw [if_neg hname, if_neg hname]

theorem lookup?_of_mem {entries : List (String × α)} (h : (entries.map Prod.fst).Nodup)
    (hmem : (key, value) ∈ entries) : lookup? key entries = some value := by
  induction entries with
  | nil => cases hmem
  | cons first rest ih =>
      obtain ⟨hfirst, hrest⟩ := List.nodup_cons.mp h
      rw [lookup?]
      rcases List.mem_cons.mp hmem with rfl | hmem
      · exact if_pos rfl
      · have hne : first.1 ≠ key := fun heq => hfirst (heq ▸ List.mem_map_of_mem hmem)
        rw [if_neg hne, ih hrest hmem]

theorem get?_foldl_insert {entries : List (String × α)} (h : (entries.map Prod.fst).Nodup) :
    (entries.foldl (fun d entry => d.insert entry.1 entry.2) d).get? name =
      (lookup? name entries).or (d.get? name) := by
  induction entries generalizing d with
  | nil => rfl
  | cons first rest ih =>
      obtain ⟨hfirst, hrest⟩ := List.nodup_cons.mp h
      rw [List.foldl_cons, ih hrest, get?_insert, lookup?]
      by_cases hname : first.1 = name
      · -- No later entry has the name of the first one.
        rw [if_pos hname, if_pos hname.symm, lookup?_eq_none_iff.mpr (hname ▸ hfirst)]
        rfl
      · rw [if_neg hname, if_neg (Ne.symm hname)]

/-- Where both maps bind a name, the second one counts. -/
@[simp] theorem get?_merge : (d.merge e).get? name = (e.get? name).or (d.get? name) :=
  get?_foldl_insert (nodup_keys_of_ordered e.ordered)

theorem get?_ofList {entries : List (String × α)} (h : (entries.map Prod.fst).Nodup) :
    (ofList entries).get? name = lookup? name entries := by
  rw [ofList, get?_foldl_insert h, get?_empty, Option.or_none]

theorem ofList_entries : ofList d.entries = d :=
  ext_get? fun _ => get?_ofList (nodup_keys_of_ordered d.ordered)

theorem keys_ofList {entries : List (String × α)} (h : (entries.map Prod.fst).Nodup) :
    (ofList entries).keys.Perm (entries.map Prod.fst) := by
  refine (List.perm_ext_iff_of_nodup (nodup_keys_of_ordered (ofList entries).ordered) h).mpr
    fun name => ?_
  rw [← not_iff_not, ← lookup?_eq_none_iff, ← lookup?_eq_none_iff, ← get?_ofList h]
  rfl

theorem mem_keys_merge : name ∈ (d.merge e).keys ↔ name ∈ d.keys ∨ name ∈ e.keys := by
  simp only [mem_keys, get?_merge, ← Option.isSome_iff_exists, Option.isSome_or, Bool.or_eq_true]
  exact or_comm

theorem merge_merge : (d.merge e).merge e = d.merge e := by
  refine ext_get? fun name => ?_
  rw [get?_merge, get?_merge, ← Option.or_assoc, Option.or_self]

theorem merge_self : d.merge d = d := by
  refine ext_get? fun name => ?_
  rw [get?_merge, Option.or_self]

theorem merge_empty : d.merge empty = d := rfl

theorem empty_merge : empty.merge d = d := ofList_entries

theorem merge_assoc {e' : Dict α} : (d.merge e).merge e' = d.merge (e.merge e') := by
  refine ext_get? fun name => ?_
  rw [get?_merge, get?_merge, get?_merge, get?_merge, Option.or_assoc]

theorem merge_comm {e' : Dict α} (h : ∀ name, e.get? name = none ∨ e'.get? name = none) :
    (d.merge e).merge e' = (d.merge e').merge e := by
  refine ext_get? fun name => ?_
  rw [get?_merge, get?_merge, get?_merge, get?_merge]
  rcases h name with hnone | hnone
  · rw [hnone, Option.none_or, Option.none_or]
  · rw [hnone, Option.none_or, Option.none_or]

/-- It does not matter which of two maps is merged into the other if they bind different names. -/
theorem merge_swap (h : ∀ name, d.get? name = none ∨ e.get? name = none) :
    d.merge e = e.merge d := by
  calc d.merge e = (empty.merge d).merge e := by rw [empty_merge]
    _ = (empty.merge e).merge d := merge_comm h
    _ = e.merge d := by rw [empty_merge]

/-- A merged map has a binding for each name that one of the two binds. -/
theorem size_merge : (d.merge e).size = (d.keys.toFinset ∪ e.keys.toFinset).card := by
  have hnames : (d.merge e).keys.toFinset = d.keys.toFinset ∪ e.keys.toFinset := by
    ext name
    rw [Finset.mem_union, List.mem_toFinset, List.mem_toFinset, List.mem_toFinset, mem_keys_merge]
  have hnodup : (d.merge e).keys.Nodup := nodup_keys_of_ordered (d.merge e).ordered
  rw [← hnames, List.toFinset_card_of_nodup hnodup, length_keys]

end Dict

end Folio
