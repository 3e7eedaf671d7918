/-
Records in JSON.

Views and forms are read in the same way: from an object, whose entries are gone through one after
the other and which may have other entries too, or from the list of the values.  What differs is the
parts, and so the parts of a record with their names, their places and their readers are made a
thing of their own here (`Record`).  Going through the entries keeps the parts that have been read
so far, and an entry of another name does nothing to a part.  So the run over all parts is a run for
each part by itself (`Record.Steps.run_eq_ok`), and what such a run comes to is the value that the
object has under the name of the part (`readPart_eq_ok`).
-/
import Folio.View.Reader
import Folio.Proofs.Fallible
import Folio.Proofs.Maps

namespace Folio

open Reading

/-! ### Readers of parts -/

section Readers

variable {α : Type} {item : Json → Reading α} {a : α} {name record : String}

theorem entries_map (write : α → Json) (h : ∀ a, item (write a) = .ok a) (xs : List (String × α)) :
    entries item (xs.map fun entry => (entry.1, write entry.2)) = .ok xs := by
  induction xs with
  | nil => rfl
  | cons first rest ih =>
      rw [List.map_cons, entries, h first.2, ih]
      rfl

theorem dict_map (write : α → Json) (h : ∀ a, item (write a) = .ok a) (d : Dict α) :
    dict item (.obj (d.entries.map fun entry => (entry.1, write entry.2))) = .ok d := by
  rw [dict, entries_map write h]
  exact congrArg Except.ok Dict.ofList_entries

theorem dict_ofTexts (d : Dict String) : dict text (.ofTexts d) = .ok d :=
  dict_map .str (fun _ => rfl) d

theorem dict_ofDict (d : Dict Json) : dict .ok (.ofDict d) = .ok d := by
  have hread := dict_map (fun j => j) (fun _ => rfl) d
  rwa [List.map_id'] at hread

theorem required_eq_ok {found : Option α} : required name found = .ok a ↔ found = some a := by
  cases found <;> simp [required]

theorem place_eq_ok {size index : Nat} {items : List Json} :
    place record size index item items = .ok a ↔ ∃ j, items[index]? = some j ∧ item j = .ok a := by
  rw [place]
  cases items[index]? <;> simp

theorem noMore_eq_ok {size : Nat} {items : List Json} {u : Unit} :
    noMore size items = .ok u ↔ items.length ≤ size := by
  rw [noMore]
  by_cases h : items.length ≤ size <;> simp [h]

end Readers

/-! ### One part of an object -/

/-- Reads the entries of one name; of several the last one counts. -/
def readPart {α : Type} (name : String) (read : Json → Reading α) :
    List (String × Json) → Option α → Reading (Option α)
  | [], found => .ok found
  | (key, j) :: rest, found =>
    if key = name then do readPart name read rest (some (← read j))
    else readPart name read rest found

section OnePart

variable {α : Type} {name : String} {read : Json → Reading α} {entries : List (String × Json)}
  {found : Option α} {a : α}

theorem readPart_of_absent (h : name ∉ entries.map Prod.fst) :
    readPart name read entries found = .ok found := by
  induction entries with
  | nil => rfl
  | cons first rest ih =>
      rw [List.map_cons, List.mem_cons, not_or] at h
      rw [readPart, if_neg (Ne.symm h.1), ih h.2]

/-- No entry of the name is passed over. -/
theorem readable_of_readPart {result : Option α} {j : Json}
    (h : readPart name read entries found = .ok result) (hmem : (name, j) ∈ entries) :
    ∃ a, read j = .ok a := by
  induction entries generalizing found with
  | nil => cases hmem
  | cons first rest ih =>
      rw [readPart] at h
      rcases List.mem_cons.mp hmem with rfl | hmem
      · rw [if_pos rfl, bind_eq_ok] at h
        obtain ⟨a, hread, -⟩ := h
        exact ⟨a, hread⟩
      · by_cases hname : first.1 = name
        · rw [if_pos hname, bind_eq_ok] at h
          obtain ⟨a, -, hrest⟩ := h
          exact ih hrest hmem
        · rw [if_neg hname] at h
          exact ih h hmem

/-- In an object whose names are different, a part is what its entry is read as. -/
theorem readPart_eq_ok (h : (entries.map Prod.fst).Nodup) :
    readPart name read entries none = .ok (some a) ↔
      ∃ j, lookup? name entries = some j ∧ read j = .ok a := by
  induction entries with
  | nil => simp [readPart, lookup?]
  | cons first rest ih =>
      obtain ⟨hfirst, hrest⟩ := List.nodup_cons.mp h
      rw [readPart, lookup?]
      by_cases hname : first.1 = name
      · have hlast : ∀ x, readPart name read rest (some x) = .ok (some x) := fun x =>
          readPart_of_absent (hname ▸ hfirst)
        rw [if_pos hname, if_pos hname, bind_eq_ok]
        simp [hlast]
      · rw [if_neg hname, if_neg hname, ih hrest]

end OnePart

/-! ### All parts of a record -/

/-- How a record is kept in JSON: its parts, and the name, the place and the reader of each. -/
structure Record (α : Type) where
  Part : Type
  Value : Part → Type
  part : α → (f : Part) → Value f
  /-- The names of the parts in the order of their places. -/
  names : List String
  name : Part → String
  place : Part → Nat
  read : (f : Part) → Json → Reading (Value f)
  names_nodup : names.Nodup
  names_place : ∀ f, names[place f]? = some (name f)
  name_injective : ∀ f g, name f = name g → f = g
  exists_part : ∀ key ∈ names, ∃ f, name f = key

namespace Record

variable {α : Type} {R : Record α} {a : α} {values : List Json} {entries : List (String × Json)}

/-- A step that reads one entry: it puts the part of that name, and leaves out other names. -/
structure Steps (R : Record α) {P : Type} (start : P) (step : P → String × Json → Reading P)
    (part? : P → (f : R.Part) → Option (R.Value f)) (put : P → (f : R.Part) → R.Value f → P) :
    Prop where
  part?_start : ∀ f, part? start f = none
  known : ∀ p f j, step p (R.name f, j) = (R.read f j).map (put p f)
  unknown : ∀ p key j, (∀ f, R.name f ≠ key) → step p (key, j) = .ok p
  part?_put : ∀ p f x, part? (put p f x) f = some x
  part?_put_ne : ∀ p f g x, g ≠ f → part? (put p f x) g = part? p g

section Run

variable {P : Type} {start : P} {step : P → String × Json → Reading P}
  {part? : P → (f : R.Part) → Option (R.Value f)} {put : P → (f : R.Part) → R.Value f → P}

/-- All parts are read by going through the entries once if each part by itself is. -/
theorem Steps.foldlM_eq_ok (h : R.Steps start step part? put) {p : P} :
    (∃ p', entries.foldlM step p = .ok p' ∧ ∀ f, part? p' f = some (R.part a f)) ↔
      ∀ f, readPart (R.name f) (R.read f) entries (part? p f) = .ok (some (R.part a f)) := by
  induction entries generalizing p with
  | nil => simp [readPart, pure, Except.pure]
  | cons first rest ih =>
      obtain ⟨key, j⟩ := first
      rw [List.foldlM_cons]
      by_cases hknown : ∃ f, R.name f = key
      · obtain ⟨f, rfl⟩ := hknown
        have hother : ∀ g, g ≠ f → R.name f ≠ R.name g := fun g hne heq =>
          hne (R.name_injective f g heq).symm
        rw [h.known]
        cases hread : R.read f j with
        | error e =>
            -- Both runs end here, the one for all parts and the one for `f`.
            refine iff_of_false (fun hrun => ?_) fun hall => ?_
            · obtain ⟨p', hp', -⟩ := hrun
              cases hp'
            · have hf := hall f
              rw [readPart, if_pos rfl, hread] at hf
              cases hf
        | ok x =>
            refine Iff.trans ih (forall_congr' fun g => ?_)
            rw [readPart]
            by_cases hg : g = f
            · subst hg
              rw [if_pos rfl, hread, h.part?_put]
              rfl
            · rw [if_neg (hother g hg), h.part?_put_ne p f g x hg]
      · have hne : ∀ f, R.name f ≠ key := fun f heq => hknown ⟨f, heq⟩
        rw [h.unknown p key j hne]
        refine Iff.trans ih (forall_congr' fun g => ?_)
        rw [readPart, if_neg (Ne.symm (hne g))]

theorem Steps.run_eq_ok (h : R.Steps start step part? put) :
    (∃ p, entries.foldlM step start = .ok p ∧ ∀ f, part? p f = some (R.part a f)) ↔
      ∀ f, readPart (R.name f) (R.read f) entries none = .ok (some (R.part a f)) := by
  refine h.foldlM_eq_ok.trans (forall_congr' fun f => ?_)
  rw [h.part?_start]

end Run

/-- A reader of records: from an object and from a list it reads every part. -/
structure Reads (R : Record α) (ofJson : Json → Reading α) : Prop where
  object : ∀ entries a, ofJson (.obj entries) = .ok a ↔
    ∀ f, readPart (R.name f) (R.read f) entries none = .ok (some (R.part a f))
  list : ∀ items a, ofJson (.arr items) = .ok a ↔
    items.length ≤ R.names.length ∧
      ∀ f, ∃ j, items[R.place f]? = some j ∧ R.read f j = .ok (R.part a f)

/-- The values from which the parts of a record are read. -/
structure Written (R : Record α) (a : α) (values : List Json) : Prop where
  length : values.length = R.names.length
  read : ∀ f, ∃ j, values[R.place f]? = some j ∧ R.read f j = .ok (R.part a f)

/-- A record in JSON, as an object, which may have other entries too, or as a list. -/
inductive Shows (names : List String) (values : List Json) : Json → Prop where
  | object {extra : Dict Json} (unknown : ∀ name ∈ names, extra.get? name = none) :
      Shows names values (.ofDict ((Dict.ofList (names.zip values)).merge extra))
  | list : Shows names values (.arr values)

variable {ofJson : Json → Reading α}

theorem map_fst_zip (h : values.length = R.names.length) :
    (R.names.zip values).map Prod.fst = R.names :=
  List.map_fst_zip (Nat.le_of_eq h.symm)

theorem keys_ofList (h : values.length = R.names.length) :
    (Dict.ofList (R.names.zip values)).keys.Perm R.names := by
  have hzip := map_fst_zip h
  have hkeys := Dict.keys_ofList (hzip.symm ▸ R.names_nodup)
  rwa [hzip] at hkeys

theorem get?_ofList (h : values.length = R.names.length) {f : R.Part} {j : Json}
    (hplace : values[R.place f]? = some j) :
    (Dict.ofList (R.names.zip values)).get? (R.name f) = some j := by
  have hnodup : ((R.names.zip values).map Prod.fst).Nodup := (map_fst_zip h).symm ▸ R.names_nodup
  have hzip : (R.names.zip values)[R.place f]? = some (R.name f, j) :=
    List.getElem?_zip_eq_some.mpr ⟨R.names_place f, hplace⟩
  rw [Dict.get?_ofList hnodup]
  exact Dict.lookup?_of_mem hnodup (List.mem_of_getElem? hzip)

/-- What is read from an object is what its names are bound to. -/
theorem Reads.ofDict_eq_ok (h : R.Reads ofJson) {d : Dict Json} :
    ofJson (.ofDict d) = .ok a ↔
      ∀ f, ∃ j, d.get? (R.name f) = some j ∧ R.read f j = .ok (R.part a f) :=
  (h.object d.entries a).trans
    (forall_congr' fun _ => readPart_eq_ok (Dict.nodup_keys_of_ordered d.ordered))

/-- However a record is shown, it is read from that. -/
theorem Reads.of_shows (h : R.Reads ofJson) (hwritten : R.Written a values) {j : Json}
    (hj : Shows R.names values j) : ofJson j = .ok a := by
  cases hj with
  | list => exact (h.list values a).mpr ⟨Nat.le_of_eq hwritten.length, hwritten.read⟩
  | object hunknown =>
      refine h.ofDict_eq_ok.mpr fun f => ?_
      obtain ⟨j, hplace, hread⟩ := hwritten.read f
      have hname : R.name f ∈ R.names := List.mem_of_getElem? (R.names_place f)
      refine ⟨j, ?_, hread⟩
      rw [Dict.get?_merge, hunknown _ hname, Option.none_or, get?_ofList hwritten.length hplace]

theorem Reads.missing (h : R.Reads ofJson) {key : String} (hkey : key ∈ R.names)
    (habsent : key ∉ entries.map Prod.fst) : ∃ e, ofJson (.obj entries) = .error e := by
  refine exists_eq_error fun a hread => ?_
  obtain ⟨f, rfl⟩ := R.exists_part key hkey
  have hf := (h.object entries a).mp hread f
  rw [readPart_of_absent habsent] at hf
  cases hf

theorem Reads.unreadable (h : R.Reads ofJson) {f : R.Part} {j : Json} {e : ReadError}
    (hmem : (R.name f, j) ∈ entries) (hj : R.read f j = .error e) :
    ∃ e, ofJson (.obj entries) = .error e := by
  refine exists_eq_error fun a hread => ?_
  obtain ⟨x, hx⟩ := readable_of_readPart ((h.object entries a).mp hread f) hmem
  rw [hj] at hx
  cases hx

end Record

/-! ### Written and read again -/

/-- JSON keeps what is written by `toJson`, and `ofJson` reads complete records only. -/
structure ReadBack {α : Type} (names : List String) (toJson : α → Json)
    (ofJson : Json → Reading α) (Shown : α → Json → Prop) : Prop where
  /-- A record is written as an object that has the names of the record and no others. -/
  keys : ∀ a, ∃ d : Dict Json, toJson a = .ofDict d ∧ d.keys.Perm names
  /-- What a record is written as is read as that record. -/
  written : ∀ a, ofJson (toJson a) = .ok a
  /-- Whatever shows a record is read as that record. -/
  shown : ∀ a j, Shown a j → ofJson j = .ok a
  /-- What has been read stays the same if it is written and read again. -/
  again : ∀ j a, ofJson j = .ok a → ofJson (toJson a) = .ok a
  /-- An object without one of the names is not read. -/
  complete : ∀ entries name, name ∈ names → name ∉ entries.map Prod.fst →
    ∃ e, ofJson (.obj entries) = .error e

/-- Records are read back if they are written by their values. -/
theorem Record.Reads.readBack {α : Type} {R : Record α} {ofJson : Json → Reading α}
    {toJson : α → Json} {values : α → List Json} {Shown : α → Json → Prop} (h : R.Reads ofJson)
    (htoJson : ∀ a, toJson a = .ofDict (Dict.ofList (R.names.zip (values a))))
    (hvalues : ∀ a, R.Written a (values a))
    (hshown : ∀ a j, Shown a j → ∃ values, R.Written a values ∧ Record.Shows R.names values j) :
    ReadBack R.names toJson ofJson Shown := by
  have hwritten : ∀ a, ofJson (toJson a) = .ok a := by
    intro a
    rw [htoJson a]
    exact h.of_shows (hvalues a) (@Record.Shows.object _ _ {} fun _ _ => rfl)
  refine ⟨fun a => ?_, hwritten, fun a j hj => ?_, fun _ a _ => hwritten a, fun entries key => ?_⟩
  · exact ⟨_, htoJson a, Record.keys_ofList (hvalues a).length⟩
  · obtain ⟨values, hvalues, hshows⟩ := hshown a j hj
    exact h.of_shows hvalues hshows
  · exact h.missing

end Folio
