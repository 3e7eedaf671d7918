/-
Paths of the entries of a directory.

However the path of a directory is spelled, with slashes at the end, with dots or with no text at
all, the path of one of its entries has the steps of the directory and the entry's name as one
more (`components_join`).  Hence a path that is put together from names, from a root on, ends in
the last of them and has just these names below the root.
-/
import Folio.Path

namespace Folio

/-- What an entry of a directory may be called. -/
structure EntryName (name : String) : Prop where
  nonempty : name.toList ≠ []
  noSlash : '/' ∉ name.toList
  notHere : name.toList ≠ ['.']
  notUp : name.toList ≠ ['.', '.']

instance (name : String) : Decidable (EntryName name) :=
  decidable_of_iff (name.toList ≠ [] ∧ '/' ∉ name.toList ∧ name.toList ≠ ['.'] ∧
      name.toList ≠ ['.', '.'])
    ⟨fun ⟨nonempty, noSlash, notHere, notUp⟩ => ⟨nonempty, noSlash, notHere, notUp⟩,
      fun h => ⟨h.nonempty, h.noSlash, h.notHere, h.notUp⟩⟩

namespace Path

/-- The path that leads on from `p` through entries of these names. -/
def through (p : Path) (names : List String) : Path := names.foldl join p

@[simp] theorem through_nil (p : Path) : p.through [] = p := rfl

@[simp] theorem through_cons (p : Path) (name : String) (names : List String) :
    p.through (name :: names) = (p.join name).through names := rfl

/-! ### Pieces between slashes -/

theorem segments_ne_nil (cs : List Char) : segments cs ≠ [] := by
  cases cs with
  | nil => exact List.cons_ne_nil _ _
  | cons c rest =>
      rw [segments]
      split
      · exact List.cons_ne_nil _ _
      · split <;> exact List.cons_ne_nil _ _

theorem segments_append (before after : List Char) :
    segments (before ++ '/' :: after) = segments before ++ segments after := by
  induction before with
  | nil => simp [segments]
  | cons c before ih =>
      rw [List.cons_append, segments, segments]
      split
      · rw [ih]
        rfl
      · rw [ih]
        cases hsegments : segments before with
        | nil => exact absurd hsegments (segments_ne_nil before)
        | cons first more => rfl

theorem segments_of_noSlash {cs : List Char} (h : '/' ∉ cs) : segments cs = [cs] := by
  induction cs with
  | nil => rfl
  | cons c rest ih =>
      rw [List.mem_cons, not_or] at h
      rw [segments, if_neg (Ne.symm h.1), ih h.2]

theorem segments_eq_empty {cs : List Char} (h : segments cs = [[]]) : cs = [] := by
  cases cs with
  | nil => rfl
  | cons c rest =>
      rw [segments] at h
      split at h
      · exact absurd (List.cons.inj h).2 (segments_ne_nil rest)
      · split at h <;> cases h

/-! ### Steps -/

/-- The steps that the pieces of a path stand for. -/
def stepsOfSegments : List (List Char) → List Component
  | [] => []
  | first :: rest =>
    let steps := (first :: rest).filterMap Component.ofSegment?
    if first = ['.'] then .here :: steps
    else if first = [] ∧ rest ≠ [] then .root :: steps
    else steps

theorem components_eq (p : Path) : p.components = stepsOfSegments (segments p.text.toList) := rfl

theorem ofSegment?_entry {name : String} (h : EntryName name) :
    Component.ofSegment? name.toList = some (.name name) := by
  rw [Component.ofSegment?, if_neg (by simp [h.nonempty, h.notHere]), if_neg h.notUp,
    String.ofList_toList]

theorem filterMap_entry {name : String} (h : EntryName name) :
    [name.toList].filterMap Component.ofSegment? = [.name name] := by
  simp only [List.filterMap_cons, ofSegment?_entry h, List.filterMap_nil]

/-- One more piece instead of an empty one stands for one more step. -/
theorem stepsOfSegments_concat (first : List Char) (rest : List (List Char)) {name : String}
    (h : EntryName name) :
    stepsOfSegments (first :: rest ++ [name.toList]) =
      stepsOfSegments (first :: rest ++ [[]]) ++ [.name name] := by
  have hsteps : (first :: (rest ++ [name.toList])).filterMap Component.ofSegment? =
      (first :: (rest ++ [[]])).filterMap Component.ofSegment? ++ [.name name] := by
    rw [← List.cons_append, ← List.cons_append, List.filterMap_append, List.filterMap_append,
      filterMap_entry h]
    simp [Component.ofSegment?]
  rw [List.cons_append, List.cons_append, stepsOfSegments, stepsOfSegments, hsteps]
  by_cases hdot : first = ['.']
  · simp [hdot]
  · by_cases hfirst : first = [] <;> simp [hdot, hfirst]

/-- An empty piece at the end stands for no step, unless it is the one that makes a path of
nothing the root. -/
theorem stepsOfSegments_concat_nil {first : List Char} {rest : List (List Char)}
    (hroot : first = [] → rest ≠ []) :
    stepsOfSegments (first :: rest ++ [[]]) = stepsOfSegments (first :: rest) := by
  have hsteps : (first :: (rest ++ [[]])).filterMap Component.ofSegment? =
      (first :: rest).filterMap Component.ofSegment? := by
    rw [← List.cons_append, List.filterMap_append]
    simp [Component.ofSegment?]
  rw [List.cons_append, stepsOfSegments, stepsOfSegments, hsteps]
  by_cases hfirst : first = []
  · simp [hfirst, hroot hfirst]
  · simp [hfirst]

theorem join_of_slash {p : Path} {entry : String} (h : p.text.toList.getLast? = some '/') :
    p.join entry = ⟨p.text ++ entry⟩ := by
  rw [join, h]
  rfl

theorem join_of_ne_slash {p : Path} {entry : String} {c : Char}
    (h : p.text.toList.getLast? = some c) (hc : c ≠ '/') :
    p.join entry = ⟨p.text ++ "/" ++ entry⟩ := by
  rw [join, h]
  split
  · next heq => cases heq
  · next heq => exact absurd (Option.some.inj heq) hc
  · rfl

/-- **The path of an entry has the steps of its directory and the entry's name.** -/
theorem components_join (p : Path) {entry : String} (h : EntryName entry) :
    (p.join entry).components = p.components ++ [.name entry] := by
  have hentry := segments_of_noSlash h.noSlash
  rw [components_eq, components_eq]
  cases hlast : p.text.toList.getLast? with
  | none =>
      rw [join, hlast]
      dsimp only
      rw [List.getLast?_eq_none_iff.mp hlast, hentry]
      simp only [stepsOfSegments, filterMap_entry h]
      rw [if_neg h.notHere, if_neg fun hboth => h.nonempty hboth.1]
      rfl
  | some c =>
      by_cases hc : c = '/'
      · subst hc
        obtain ⟨front, hfront⟩ := List.getLast?_eq_some_iff.mp hlast
        rw [join_of_slash hlast, String.toList_append, hfront, List.append_assoc,
          List.singleton_append, segments_append, segments_append, hentry]
        cases hsegments : segments front with
        | nil => exact absurd hsegments (segments_ne_nil _)
        | cons first rest => exact stepsOfSegments_concat first rest h
      · have hslash : "/".toList = ['/'] := rfl
        rw [join_of_ne_slash hlast hc, String.toList_append, String.toList_append, hslash,
          List.append_assoc, List.singleton_append, segments_append, hentry]
        cases hsegments : segments p.text.toList with
        | nil => exact absurd hsegments (segments_ne_nil _)
        | cons first rest =>
            rw [stepsOfSegments_concat first rest h, stepsOfSegments_concat_nil]
            -- Only a path of nothing is one empty piece, and this one ends in a character.
            rintro rfl rfl
            rw [segments_eq_empty hsegments] at hlast
            cases hlast

/-! ### Paths through names -/

variable {names : List String}

theorem components_through (hnames : ∀ name ∈ names, EntryName name) : ∀ (p : Path),
    (p.through names).components = p.components ++ names.map .name := by
  induction names with
  | nil => intro p; simp
  | cons name names ih =>
      intro p
      rw [through_cons, ih (fun n hn => hnames n (List.mem_cons_of_mem _ hn)),
        components_join p (hnames name List.mem_cons_self), List.append_assoc]
      rfl

theorem fileName?_through (hnames : ∀ name ∈ names, EntryName name) (p : Path) {last : String}
    (hlast : names.getLast? = some last) : (p.through names).fileName? = some last := by
  rw [fileName?, components_through hnames, List.getLast?_append, List.getLast?_map, hlast]
  rfl

theorem stepsAfter?_append (ys xs : List Component) : stepsAfter? ys (ys ++ xs) = some xs := by
  induction ys with
  | nil => rfl
  | cons y ys ih => rw [List.cons_append, stepsAfter?, if_pos rfl, ih]

theorem stepsBelow_through (hnames : ∀ name ∈ names, EntryName name) (root : Path) :
    (root.through names).stepsBelow root = names.map .name := by
  rw [stepsBelow, components_through hnames, stepsAfter?_append]
  rfl

theorem through_injective {names' : List String} (hnames : ∀ name ∈ names, EntryName name)
    (hnames' : ∀ name ∈ names', EntryName name) {root : Path}
    (h : root.through names = root.through names') : names = names' := by
  refine (List.map_inj_right fun _ _ => Component.name.inj).mp ?_
  rw [← stepsBelow_through hnames root, h, stepsBelow_through hnames' root]

/-- The text of a path through names below the root is these names with slashes between them. -/
theorem relativeText_through (hnames : ∀ name ∈ names, EntryName name) (root : Path) :
    (root.through names).relativeText root = String.intercalate "/" names := by
  have htext : Component.text ∘ Component.name = id := rfl
  rw [relativeText, stepsBelow_through hnames, List.map_map, htext, List.map_id]

/-! ### Names with slashes between them -/

theorem segments_intercalate (hnames : ∀ name ∈ names, EntryName name) (hne : names ≠ []) :
    segments (String.intercalate "/" names).toList = names.map String.toList := by
  induction names with
  | nil => exact absurd rfl hne
  | cons name rest ih =>
      have hname := segments_of_noSlash (hnames name List.mem_cons_self).noSlash
      cases rest with
      | nil => rw [String.intercalate_singleton, hname, List.map_singleton]
      | cons next rest =>
          have hslash : "/".toList = ['/'] := rfl
          rw [String.intercalate_cons_cons, String.toList_append, String.toList_append, hslash,
            List.append_assoc, List.singleton_append, segments_append, hname,
            ih (fun n hn => hnames n (List.mem_cons_of_mem _ hn)) (List.cons_ne_nil _ _)]
          rfl

theorem intercalate_injective {names' : List String} (hnames : ∀ name ∈ names, EntryName name)
    (hnames' : ∀ name ∈ names', EntryName name) (hne : names ≠ []) (hne' : names' ≠ [])
    (h : String.intercalate "/" names = String.intercalate "/" names') : names = names' := by
  have hlists : names.map String.toList = names'.map String.toList := by
    rw [← segments_intercalate hnames hne, h, segments_intercalate hnames' hne']
  exact (List.map_inj_right fun _ _ => String.toList_inj.mp).mp hlists

end Path

end Folio
