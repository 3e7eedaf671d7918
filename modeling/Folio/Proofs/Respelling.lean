/-
Roots in other spellings.

A path may be written with slashes more than it needs, at the end or in between, and with dots for
the place it has come to.  None of this changes where it leads: of two paths with the same steps
apart from these dots, one leads to a directory if the other one does, and to the same
(`FileTree.directory_respelled`).  Only the length of its text, which is limited, can keep it from
that.

Following a path is bounded by some fuel, and two spellings need different amounts of it.  The
induction is on the fuel of both together: a dot uses up some of one side, and any other step is
taken by both sides alike (`advance`), where a link puts its own steps in front of the others.  The
fuel that a path is given suffices for its steps and for those of as many links as may be followed
(`Affords`), so the other side does not run out of it.
-/
import Folio.Proofs.DiscoveryOrder

namespace Folio

namespace FileTree

variable {t node : FileTree} {fuel fuel' links links' : Nat} {step : String}
  {place place' steps steps' front rest p : List String}

/-! ### One step -/

/-- Where one step leads, if anywhere: how many links may still be followed, the place it has come
to, and the steps that a link asks for first. -/
def advance (t : FileTree) (links : Nat) (place : List String) (step : String) :
    Option (Nat × List String × List String) :=
  match t.at? place.reverse with
  | some (.dir entries) =>
    if step = "." then some (links, place, [])
    else if step = ".." then some (links, place.tail, [])
    else if nameLimit < step.utf8ByteSize then none
    else
      match child? step entries with
      | some (.link target) =>
        match links with
        | 0 => none
        | links + 1 =>
          if target = "" then none else some (links, origin place target, stepsOf target)
      | some _ => some (links, step :: place, [])
      | none => none
  | some (.unreadable _) =>
    if step = "." ∨ step = ".." then some (links, place, []) else none
  | _ => none

/-- **A path leads on where its first step leads.** -/
theorem follow_cons : t.follow (fuel + 1) links place (step :: rest) = .ok p ↔
    ∃ links' place' front, t.advance links place step = some (links', place', front) ∧
      t.follow fuel links' place' (front ++ rest) = .ok p := by
  have taken : ∀ l q f, t.follow fuel l q (f ++ rest) = .ok p ↔
      ∃ links' place' front, some (l, q, f) = some (links', place', front) ∧
        t.follow fuel links' place' (front ++ rest) = .ok p := by
    intro l q f
    constructor
    · exact fun h => ⟨l, q, f, rfl, h⟩
    · rintro ⟨l', q', f', heq, h⟩
      cases heq
      exact h
  rw [follow]
  unfold advance
  cases hat : t.at? place.reverse with
  | none => simp
  | some node =>
      cases node with
      | file bytes => simp
      | link target => simp
      | unreadable fault =>
          dsimp only
          by_cases hdots : step = "." ∨ step = ".."
          · rw [if_pos hdots, if_pos hdots]
            exact taken links place []
          · rw [if_neg hdots, if_neg hdots]
            simp
      | dir entries =>
          dsimp only
          by_cases hhere : step = "."
          · rw [if_pos hhere, if_pos hhere]
            exact taken links place []
          rw [if_neg hhere, if_neg hhere]
          by_cases hup : step = ".."
          · rw [if_pos hup, if_pos hup]
            exact taken links place.tail []
          rw [if_neg hup, if_neg hup]
          by_cases hlong : nameLimit < step.utf8ByteSize
          · rw [if_pos hlong, if_pos hlong]
            simp
          rw [if_neg hlong, if_neg hlong]
          cases hchild : child? step entries with
          | none => simp
          | some child =>
              cases child with
              | file bytes => exact taken links (step :: place) []
              | dir below => exact taken links (step :: place) []
              | unreadable fault => exact taken links (step :: place) []
              | link target =>
                  cases links with
                  | zero => simp
                  | succ links =>
                      dsimp only
                      by_cases htarget : target = ""
                      · rw [if_pos htarget, if_pos htarget]
                        simp
                      · rw [if_neg htarget, if_neg htarget]
                        exact taken links (origin place target) (stepsOf target)

theorem follow_nil : t.follow (fuel + 1) links place [] = .ok p ↔ place = p := by
  rw [follow, Except.ok.injEq]

theorem fuel_of_follow (h : t.follow fuel links place steps = .ok p) : ∃ less, fuel = less + 1 := by
  cases fuel with
  | zero => cases h
  | succ less => exact ⟨less, rfl⟩

/-! ### Staying where one is -/

/-- A directory lies at a place, so that one can stay there. -/
def Stays (t : FileTree) (place : List String) : Prop :=
  ∀ links, t.advance links place "." = some (links, place, [])

theorem stays_of_walkable (h : t.at? place.reverse = some node) (walkable : node.Walkable) :
    t.Stays place := by
  intro links
  unfold advance
  rw [h]
  cases walkable with
  | dir entries => exact if_pos rfl
  | unreadable fault => exact if_pos (.inl rfl)

theorem stays_of_advance {found : Nat × List String × List String}
    (h : t.advance links place step = some found) : t.Stays place := by
  cases hat : t.at? place.reverse with
  | none => rw [advance, hat] at h; cases h
  | some node =>
      cases node with
      | file bytes => rw [advance, hat] at h; cases h
      | link target => rw [advance, hat] at h; cases h
      | dir entries => exact stays_of_walkable hat (.dir entries)
      | unreadable fault => exact stays_of_walkable hat (.unreadable fault)

/-- A path that leads to a directory leads there from one. -/
theorem stays_of_follow (h : t.follow fuel links place steps = .ok p) (stays : t.Stays p) :
    t.Stays place := by
  obtain ⟨less, rfl⟩ := fuel_of_follow h
  cases steps with
  | nil =>
      rw [follow_nil.mp h]
      exact stays
  | cons step rest =>
      obtain ⟨links', place', front, hadvance, -⟩ := follow_cons.mp h
      exact stays_of_advance hadvance

theorem follow_here (stays : t.Stays place) :
    t.follow (fuel + 1) links place ("." :: rest) = .ok p ↔
      t.follow fuel links place rest = .ok p := by
  rw [follow_cons]
  constructor
  · rintro ⟨links', place', front, hadvance, hrest⟩
    cases (stays links).symm.trans hadvance
    exact hrest
  · exact fun h => ⟨links, place, [], stays links, h⟩

/-! ### Enough fuel -/

theorem longestLink_child? {name : String} : ∀ {entries : List (String × FileTree)},
    child? name entries = some node → node.longestLink ≤ longestLink.longestIn entries := by
  intro entries
  induction entries with
  | nil => intro h; cases h
  | cons e rest ih =>
      intro h
      obtain ⟨n, u⟩ := e
      rw [child?] at h
      rw [longestLink.longestIn]
      split at h
      · cases h
        exact Nat.le_max_left ..
      · exact Nat.le_trans (ih h) (Nat.le_max_right ..)

theorem longestLink_at? {names : List String} : ∀ {t : FileTree}, t.at? names = some node →
    node.longestLink ≤ t.longestLink := by
  induction names with
  | nil =>
      intro t h
      cases h
      exact Nat.le_refl _
  | cons name rest ih =>
      intro t h
      cases t with
      | file bytes => cases h
      | link target => cases h
      | unreadable fault => cases h
      | dir entries =>
          obtain ⟨child, hchild, hrest⟩ := Option.bind_eq_some_iff.mp h
          rw [longestLink]
          exact Nat.le_trans (ih hrest) (longestLink_child? hchild)

theorem segments_length (cs : List Char) : (segments cs).length ≤ cs.length + 1 := by
  induction cs with
  | nil => exact Nat.le_refl _
  | cons c rest ih =>
      rw [segments]
      split
      · simpa using ih
      · split
        · simp
        · next heq =>
          rw [heq] at ih
          simp only [List.length_cons] at ih ⊢
          omega

theorem stepsOf_length (text : String) : (stepsOf text).length ≤ text.length + 2 := by
  have hfilter := List.length_filter_le (· ≠ []) (segments text.toList)
  have hsegments := segments_length text.toList
  rw [String.length_toList] at hsegments
  unfold stepsOf
  dsimp only
  split
  · rw [List.length_append, List.length_map, List.length_singleton]
    omega
  · rw [List.length_map]
    omega

/-- The fuel suffices for these steps, and for those of as many links as may be followed. -/
def Affords (t : FileTree) (fuel links : Nat) (steps : List String) : Prop :=
  steps.length + links * (t.longestLink + 2) < fuel

/-- A step asks for no more, or it is a link, of which one less may be followed then. -/
theorem advance_front (h : t.advance links place step = some (links', place', front)) :
    links = links' ∧ front = [] ∨ links = links' + 1 ∧ front.length ≤ t.longestLink + 2 := by
  unfold advance at h
  split at h
  · rename_i entries hat
    split at h
    · cases h
      exact .inl ⟨rfl, rfl⟩
    split at h
    · cases h
      exact .inl ⟨rfl, rfl⟩
    split at h
    · cases h
    split at h
    · rename_i target hchild
      split at h
      · cases h
      split at h
      · cases h
      · cases h
        have htarget := Nat.le_trans (longestLink_child? hchild) (longestLink_at? hat)
        rw [longestLink] at htarget
        exact .inr ⟨rfl, Nat.le_trans (stepsOf_length target) (by omega)⟩
    · cases h
      exact .inl ⟨rfl, rfl⟩
    · cases h
  · split at h
    · cases h
      exact .inl ⟨rfl, rfl⟩
    · cases h
  · cases h

theorem Affords.advance (affords : t.Affords (fuel + 1) links (step :: rest))
    (h : t.advance links place step = some (links', place', front)) :
    t.Affords fuel links' (front ++ rest) := by
  unfold Affords at affords ⊢
  rw [List.length_cons] at affords
  rcases advance_front h with ⟨rfl, rfl⟩ | ⟨rfl, hfront⟩
  · rw [List.nil_append]
    omega
  · rw [Nat.succ_mul] at affords
    rw [List.length_append]
    omega

theorem Affords.exists_succ (affords : t.Affords fuel links steps) : ∃ less, fuel = less + 1 :=
  Nat.exists_eq_add_one_of_ne_zero (Nat.ne_of_gt (Nat.zero_lt_of_lt affords))

/-! ### Two spellings -/

/-- The steps apart from the dots for the place one has come to. -/
def plain (steps : List String) : List String := steps.filter (· ≠ ".")

theorem plain_here (steps : List String) : plain ("." :: steps) = plain steps := rfl

theorem plain_cons (h : step ≠ ".") (steps : List String) :
    plain (step :: steps) = step :: plain steps :=
  List.filter_cons_of_pos (by simpa using h)

theorem plain_append (steps steps' : List String) :
    plain (steps ++ steps') = plain steps ++ plain steps' :=
  List.filter_append ..

/-- **Steps that are the same apart from dots lead to the same directory.** -/
theorem follow_plain (total : Nat) : ∀ {fuel fuel' links : Nat} {place steps steps' : List String},
    fuel + fuel' ≤ total → t.follow fuel links place steps = .ok p → t.Stays p →
    t.Affords fuel' links steps' → plain steps = plain steps' →
    t.follow fuel' links place steps' = .ok p := by
  induction total with
  | zero =>
      intro fuel fuel' links place steps steps' hle h
      obtain ⟨less, rfl⟩ := fuel_of_follow h
      omega
  | succ total ih =>
      intro fuel fuel' links place steps steps' hle h stays affords same
      obtain ⟨less, rfl⟩ := fuel_of_follow h
      obtain ⟨less', rfl⟩ := affords.exists_succ
      have here := stays_of_follow h stays
      by_cases hdot : ∃ rest, steps = "." :: rest
      · obtain ⟨rest, rfl⟩ := hdot
        rw [plain_here] at same
        exact ih (by omega) ((follow_here here).mp h) stays affords same
      by_cases hdot' : ∃ rest, steps' = "." :: rest
      · obtain ⟨rest', rfl⟩ := hdot'
        rw [plain_here] at same
        have haffords := affords.advance (here links)
        exact (follow_here here).mpr (ih (by omega) h stays haffords same)
      cases steps with
      | nil =>
          cases steps' with
          | nil => exact follow_nil.mpr (follow_nil.mp h)
          | cons step' rest' =>
              rw [plain_cons fun heq => hdot' ⟨rest', by rw [heq]⟩] at same
              cases same
      | cons step rest =>
          rw [plain_cons fun heq => hdot ⟨rest, by rw [heq]⟩] at same
          cases steps' with
          | nil => cases same
          | cons step' rest' =>
              rw [plain_cons fun heq => hdot' ⟨rest', by rw [heq]⟩] at same
              obtain ⟨rfl, hplain⟩ := List.cons.inj same
              -- Both sides take this step, and a link puts the same steps in front of the rest.
              obtain ⟨links', place', front, hadvance, hrest⟩ := follow_cons.mp h
              refine follow_cons.mpr ⟨links', place', front, hadvance, ?_⟩
              refine ih (by omega) hrest stays (affords.advance hadvance) ?_
              rw [plain_append, plain_append, hplain]

end FileTree

/-! ### Paths -/

namespace Path

variable {p q : Path} {c : Component} {s : List Char} {letter : Char}

/-- Two paths with the same steps, but for the dot at the front of one that begins where one is. -/
def SameSteps (p q : Path) : Prop :=
  p.components.filter (· ≠ .here) = q.components.filter (· ≠ .here)

instance (p q : Path) : Decidable (p.SameSteps q) := inferInstanceAs (Decidable (_ = _))

/-- However slashes and dots are written, the steps are the same. -/
example : SameSteps ⟨"./a//b/./"⟩ ⟨"a/b"⟩ ∧ ¬ SameSteps ⟨"a/../b"⟩ ⟨"b"⟩ := by decide

theorem SameSteps.mem_iff (same : p.SameSteps q) (hc : c ≠ .here) :
    c ∈ p.components ↔ c ∈ q.components := by
  have hfilter : ∀ steps : List Component, c ∈ steps.filter (· ≠ .here) ↔ c ∈ steps := by
    intro steps
    rw [List.mem_filter]
    simp [hc]
  rw [← hfilter p.components, same, hfilter]

theorem eq_of_ofSegment? (h : Component.ofSegment? s = some c) :
    c = .up ∨ c = .name (String.ofList s) := by
  unfold Component.ofSegment? at h
  split at h
  · cases h
  · split at h
    · cases h
      exact .inl rfl
    · cases h
      exact .inr rfl

/-- The texts of the steps are the pieces, apart from those that stand for no step. -/
theorem texts_of_segments (pieces : List (List Char)) :
    (pieces.filterMap Component.ofSegment?).map Component.text =
      FileTree.plain ((pieces.filter (· ≠ [])).map String.ofList) := by
  induction pieces with
  | nil => rfl
  | cons s rest ih =>
      by_cases hempty : s = []
      · rw [hempty]
        exact ih
      rw [List.filter_cons_of_pos (by simpa using hempty), List.map_cons]
      by_cases hhere : s = ['.']
      · rw [hhere]
        exact ih
      have hplain : String.ofList s ≠ "." := by
        intro heq
        exact hhere (by rw [← String.toList_ofList (l := s), heq]; rfl)
      rw [FileTree.plain_cons hplain, ← ih]
      by_cases hup : s = ['.', '.']
      · rw [hup]
        rfl
      · have hname : Component.ofSegment? s = some (.name (String.ofList s)) := by
          rw [Component.ofSegment?, if_neg (by simp [hempty, hhere]), if_neg hup]
        rw [List.filterMap_cons_some hname, List.map_cons]
        rfl

/-- Below where it begins, a path has the steps of its pieces. -/
theorem components_below : (p.components.filter (· ≠ .here)).filter (· ≠ .root) =
    (segments p.text.toList).filterMap Component.ofSegment? := by
  have hsteps : ∀ pieces : List (List Char),
      ((pieces.filterMap Component.ofSegment?).filter (· ≠ .here)).filter (· ≠ .root) =
        pieces.filterMap Component.ofSegment? := by
    intro pieces
    rw [List.filter_filter]
    refine List.filter_eq_self.mpr fun c hc => ?_
    obtain ⟨s, -, hs⟩ := List.mem_filterMap.mp hc
    rcases eq_of_ofSegment? hs with rfl | rfl <;> rfl
  rw [components_eq]
  cases segments p.text.toList with
  | nil => rfl
  | cons first rest =>
      rw [stepsOfSegments]
      by_cases hhere : first = ['.']
      · rw [if_pos hhere, List.filter_cons_of_neg (by simp), hsteps]
      rw [if_neg hhere]
      by_cases hroot : first = [] ∧ rest ≠ []
      · rw [if_pos hroot, List.filter_cons_of_pos (by simp), List.filter_cons_of_neg (by simp),
          hsteps]
      · rw [if_neg hroot, hsteps]

theorem plain_stepsOf : FileTree.plain (FileTree.stepsOf p.text) =
    ((p.components.filter (· ≠ .here)).filter (· ≠ .root)).map Component.text := by
  rw [components_below, texts_of_segments]
  unfold FileTree.stepsOf
  dsimp only
  split
  · rw [FileTree.plain_append]
    exact List.append_nil _
  · rfl

/-! ### The letters of a path -/

/-- A letter between slashes is one of the text, and a letter that is no slash stands there. -/
theorem mem_segments (hletter : letter ≠ '/') {cs : List Char} :
    letter ∈ cs ↔ ∃ s ∈ segments cs, letter ∈ s := by
  induction cs with
  | nil => simp [segments]
  | cons d rest ih =>
      rw [segments, List.mem_cons, ih]
      split
      · rename_i hd
        simp [hd, hletter]
      · split
        · next heq => exact absurd heq (segments_ne_nil rest)
        · next s more heq =>
          rw [heq]
          simp [or_assoc]

theorem name_mem_components {name : String} : .name name ∈ p.components ↔
    ∃ s ∈ segments p.text.toList, Component.ofSegment? s = some (.name name) := by
  rw [components_eq]
  cases segments p.text.toList with
  | nil => simp [stepsOfSegments]
  | cons first rest =>
      rw [← List.mem_filterMap, stepsOfSegments]
      split
      · simp
      · split <;> simp

/-- A letter other than those that slashes and dots are written with is one of a name. -/
theorem mem_text (hslash : letter ≠ '/') (hdot : letter ≠ '.') : letter ∈ p.text.toList ↔
    ∃ name, .name name ∈ p.components ∧ letter ∈ name.toList := by
  rw [mem_segments hslash]
  simp only [name_mem_components]
  constructor
  · rintro ⟨s, hs, hmem⟩
    refine ⟨String.ofList s, ⟨s, hs, ?_⟩, by rwa [String.toList_ofList]⟩
    rw [Component.ofSegment?, if_neg, if_neg]
    · rintro rfl
      simp [hdot] at hmem
    · rintro (rfl | rfl)
      · cases hmem
      · simp [hdot] at hmem
  · rintro ⟨name, ⟨s, hs, hname⟩, hmem⟩
    refine ⟨s, hs, ?_⟩
    rcases eq_of_ofSegment? hname with heq | heq
    · cases heq
    · cases heq
      rwa [String.toList_ofList] at hmem

theorem SameSteps.mem_text (same : p.SameSteps q) (hslash : letter ≠ '/') (hdot : letter ≠ '.') :
    letter ∈ p.text.toList ↔ letter ∈ q.text.toList := by
  rw [Path.mem_text hslash hdot, Path.mem_text hslash hdot]
  refine exists_congr fun name => and_congr_left fun _ => ?_
  exact same.mem_iff nofun

end Path

namespace FileTree

variable {t node : FileTree} {p q : Path} {place : List String}

theorem resolve_eq_ok : t.resolve p = .ok place ↔
    '\x00' ∉ p.text.toList ∧ p.text.utf8ByteSize ≤ pathLimit ∧ p.text ≠ "" ∧
      t.follow (p.text.toList.length + 2 + (linkLimit + 1) * (t.longestLink + 2)) linkLimit []
        (stepsOf p.text) = .ok place.reverse := by
  unfold resolve
  dsimp only
  by_cases hnull : '\x00' ∈ p.text.toList
  · simp [hnull]
  by_cases hlong : pathLimit < p.text.utf8ByteSize
  · simp [hnull, hlong, Nat.not_le.mpr hlong]
  by_cases hempty : p.text.toList = []
  · simp [String.toList_eq_nil_iff.mp hempty]
  rw [if_neg hnull, if_neg hlong, if_neg hempty, map_eq_ok]
  rw [String.toList_eq_nil_iff] at hempty
  simp [hnull, Nat.not_lt.mp hlong, hempty, List.reverse_eq_iff]

theorem affords_stepsOf (t : FileTree) (text : String) :
    t.Affords (text.toList.length + 2 + (linkLimit + 1) * (t.longestLink + 2)) linkLimit
      (stepsOf text) := by
  have hsteps := stepsOf_length text
  rw [← String.length_toList] at hsteps
  unfold Affords
  rw [Nat.succ_mul]
  omega

/-- A path that leads to a directory leads there in another spelling. -/
theorem resolve_respelled (same : p.SameSteps q) (nonempty : q.text ≠ "")
    (short : q.text.utf8ByteSize ≤ pathLimit) (h : t.resolve p = .ok place)
    (stays : t.Stays place.reverse) : t.resolve q = .ok place := by
  obtain ⟨hnull, -, -, hfollow⟩ := resolve_eq_ok.mp h
  refine resolve_eq_ok.mpr ⟨?_, short, nonempty, ?_⟩
  · rwa [← same.mem_text (by decide) (by decide)]
  · refine follow_plain _ (Nat.le_refl _) hfollow stays (affords_stepsOf t q.text) ?_
    rw [Path.plain_stepsOf, Path.plain_stepsOf]
    exact congrArg (fun steps => (steps.filter (· ≠ .root)).map Component.text) same

/-- **A directory is found by all spellings of its path.** -/
theorem directory_respelled (same : p.SameSteps q) (nonempty : q.text ≠ "")
    (short : q.text.utf8ByteSize ≤ pathLimit) (h : t.directory p = .ok node) :
    t.directory q = .ok node := by
  obtain ⟨place, hplace, hnode, walkable⟩ := directory_eq_ok.mp h
  have stays : t.Stays place.reverse :=
    stays_of_walkable (by rwa [List.reverse_reverse]) walkable
  have hplace' := resolve_respelled same nonempty short hplace stays
  exact directory_eq_ok.mpr ⟨place, hplace', hnode, walkable⟩

end FileTree

end Folio
