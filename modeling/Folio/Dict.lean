/-
Maps from names to values, kept in the order of the names.

The entries are a list in strictly increasing order of the keys, and the order is part of
the type, so a map has exactly one form: two maps with the same bindings are equal.  Names
are ordered character by character, which is also the order of their UTF-8 bytes.
-/
namespace Folio

universe u v

/-- The first value bound to `key` in a list of entries. -/
def lookup? {α : Type u} (key : String) : List (String × α) → Option α
  | [] => none
  | (k, v) :: rest => if k = key then some v else lookup? key rest

/-- Binds `key` in an ordered list of entries, replacing an earlier binding. -/
def assign {α : Type u} (key : String) (value : α) : List (String × α) → List (String × α)
  | [] => [(key, value)]
  | (k, v) :: rest =>
    if key < k then (key, value) :: (k, v) :: rest
    else if key = k then (key, value) :: rest
    else (k, v) :: assign key value rest

/-- Entries in strictly increasing order of their keys. -/
def Ordered {α : Type u} (entries : List (String × α)) : Prop :=
  entries.Pairwise fun a b => a.1 < b.1

theorem fst_mem_assign {α : Type u} {key : String} {value : α} {entries : List (String × α)}
    {e : String × α} (h : e ∈ assign key value entries) : e.1 = key ∨ e ∈ entries := by
  induction entries with
  | nil => simp_all [assign]
  | cons a rest ih =>
      simp only [assign] at h
      split at h
      · rcases List.mem_cons.1 h with rfl | h
        · exact .inl rfl
        · exact .inr h
      · split at h
        · rcases List.mem_cons.1 h with rfl | h
          · exact .inl rfl
          · exact .inr (List.mem_cons_of_mem _ h)
        · rcases List.mem_cons.1 h with rfl | h
          · exact .inr List.mem_cons_self
          · exact (ih h).imp_right (List.mem_cons_of_mem _)

theorem ordered_assign {α : Type u} (key : String) (value : α) {entries : List (String × α)}
    (h : Ordered entries) : Ordered (assign key value entries) := by
  induction entries with
  | nil => simp [assign, Ordered]
  | cons a rest ih =>
      have ha := List.pairwise_cons.1 h
      simp only [assign]
      split
      · next hlt =>
        refine List.pairwise_cons.2 ⟨fun e he => ?_, h⟩
        rcases List.mem_cons.1 he with rfl | he
        · exact hlt
        · exact String.lt_trans hlt (ha.1 e he)
      · split
        · next heq =>
          subst heq
          exact List.pairwise_cons.2 ⟨ha.1, ha.2⟩
        · next hlt hne =>
          refine List.pairwise_cons.2 ⟨fun e he => ?_, ih ha.2⟩
          rcases fst_mem_assign he with he | he
          · rw [he]
            rcases String.le_total a.1 key with hle | hle
            · exact String.not_le.1 fun hle' => hne (String.le_antisymm hle' hle)
            · exact absurd (String.le_antisymm hle (String.not_lt.1 hlt)) hne
          · exact ha.1 e he

/-- A map from names to values. -/
structure Dict (α : Type u) where
  entries : List (String × α) := []
  ordered : Ordered entries := by exact List.Pairwise.nil

namespace Dict

variable {α : Type u} {β : Type v}

instance : Inhabited (Dict α) := ⟨{}⟩

def empty : Dict α := {}

def get? (d : Dict α) (key : String) : Option α := lookup? key d.entries

def contains (d : Dict α) (key : String) : Bool := (d.get? key).isSome

/-- Binds a name, replacing an earlier binding. -/
def insert (d : Dict α) (key : String) (value : α) : Dict α where
  entries := assign key value d.entries
  ordered := ordered_assign key value d.ordered

def keys (d : Dict α) : List String := d.entries.map (·.1)

def values (d : Dict α) : List α := d.entries.map (·.2)

def size (d : Dict α) : Nat := d.entries.length

def isEmpty (d : Dict α) : Bool := d.entries.isEmpty

/-- Both maps' bindings; where both bind a name, the second one counts. -/
def merge (d e : Dict α) : Dict α :=
  e.entries.foldl (fun d entry => d.insert entry.1 entry.2) d

/-- The bindings of a list; of several for one name, the last one counts. -/
def ofList (entries : List (String × α)) : Dict α :=
  entries.foldl (fun d entry => d.insert entry.1 entry.2) empty

instance [BEq α] : BEq (Dict α) := ⟨fun d e => d.entries == e.entries⟩

@[simp] theorem get?_empty (key : String) : (empty : Dict α).get? key = none := rfl

theorem lookup?_assign (key name : String) (value : α) (entries : List (String × α)) :
    lookup? name (assign key value entries) =
      if name = key then some value else lookup? name entries := by
  induction entries with
  | nil => simp [assign, lookup?, eq_comm]
  | cons a rest ih => grind [assign, lookup?]

/-- Reading after a binding. -/
@[simp] theorem get?_insert (d : Dict α) (key name : String) (value : α) :
    (d.insert key value).get? name = if name = key then some value else d.get? name :=
  lookup?_assign key name value d.entries

theorem lookup?_eq_some_iff {key : String} {value : α} {entries : List (String × α)}
    (h : Ordered entries) : lookup? key entries = some value ↔ (key, value) ∈ entries := by
  induction entries with
  | nil => simp [lookup?]
  | cons a rest ih =>
      have ha := List.pairwise_cons.1 h
      obtain ⟨k, v⟩ := a
      simp only [lookup?, List.mem_cons, Prod.mk.injEq]
      split
      · next hk =>
        subst hk
        constructor
        · intro hv
          exact .inl ⟨rfl, (Option.some.inj hv).symm⟩
        · rintro (⟨_, rfl⟩ | hm)
          · rfl
          · exact absurd (ha.1 _ hm) (String.lt_irrefl _)
      · next hk =>
        rw [ih ha.2]
        exact ⟨.inr, fun hm => hm.resolve_left fun hm => hk hm.1.symm⟩

theorem get?_eq_some_iff {d : Dict α} {key : String} {value : α} :
    d.get? key = some value ↔ (key, value) ∈ d.entries :=
  lookup?_eq_some_iff d.ordered

/-- The names of a map are those that are bound. -/
theorem mem_keys {d : Dict α} {key : String} :
    key ∈ d.keys ↔ ∃ value, d.get? key = some value := by
  simp only [keys, List.mem_map, get?_eq_some_iff]
  constructor
  · rintro ⟨e, he, rfl⟩
    exact ⟨e.2, he⟩
  · rintro ⟨value, h⟩
    exact ⟨_, h, rfl⟩

/-- Two maps with the same entries are equal. -/
theorem ext_entries {d e : Dict α} (h : d.entries = e.entries) : d = e := by
  obtain ⟨_, _⟩ := d
  obtain ⟨_, _⟩ := e
  cases h
  rfl

end Dict

end Folio
