/-
Texts that can be put together without a change to the names they call.

The search for tags and for what closes them runs over the whole text, so that a tag left open, or a
brace left at the end, takes what follows into it.  A text in which neither occurs is complete
(`Complete`), and behind it the scan begins anew: the bodies of the tags of two texts are those of
the one and then those of the other (`Complete.tagBodies_append`).  The induction follows the search
for tags, and what closes a tag is found at the same place whatever comes behind
(`splitBeforePair_append`).
-/
import Folio.Proofs.TagPieces

namespace Folio.Template

/-- Whether every tag that the scan opens in a text is closed in it. -/
def closesTags : List Char → Bool
  | [] => true
  | [_] => true
  | c :: d :: rest =>
    if c = '\x7b' then
      match Calls.closingPair? d with
      | some (a, b) =>
        have := Calls.length_splitBeforePair_le a b rest
        hasPair a b rest && closesTags (Calls.splitBeforePair a b rest).2
      | none => closesTags (d :: rest)
    else closesTags (d :: rest)
termination_by cs => cs.length

/-- No tag of the text is open at its end, and no brace stands there. -/
structure Complete (cs : List Char) : Prop where
  closed : closesTags cs = true
  /-- The brace could open a tag together with what follows. -/
  brace : cs.getLast? ≠ some '\x7b'

instance (cs : List Char) : Decidable (Complete cs) :=
  decidable_of_iff (closesTags cs = true ∧ cs.getLast? ≠ some '\x7b')
    ⟨fun h => ⟨h.1, h.2⟩, fun h => ⟨h.closed, h.brace⟩⟩

section Complete

variable {a b : Char} {cs rest : List Char} {texts : List (List Char)}

/-- A tag that is closed is closed at the same place whatever follows. -/
theorem splitBeforePair_append (h : hasPair a b cs = true) :
    Calls.splitBeforePair a b (cs ++ rest) =
      ((Calls.splitBeforePair a b cs).1, (Calls.splitBeforePair a b cs).2 ++ rest) := by
  rcases splitBeforePair_spec a b cs with ⟨more, hleft, hbody⟩ | ⟨-, hnone⟩
  · have hcut : cs ++ rest = (Calls.splitBeforePair a b cs).1 ++ a :: b :: (more ++ rest) := by
      have happend := Calls.append_splitBeforePair a b cs
      rw [hleft] at happend
      simpa using congrArg (· ++ rest) happend.symm
    rw [hcut, splitBeforePair_clean hbody, hleft, List.cons_append, List.cons_append]
  · rw [h] at hnone
    cases hnone

theorem getLast?_splitBeforePair (h : hasPair a b cs = true) :
    (Calls.splitBeforePair a b cs).2.getLast? = cs.getLast? := by
  rcases splitBeforePair_spec a b cs with ⟨more, hleft, -⟩ | ⟨-, hnone⟩
  · calc (Calls.splitBeforePair a b cs).2.getLast?
        = ((Calls.splitBeforePair a b cs).1 ++ (Calls.splitBeforePair a b cs).2).getLast? := by
          rw [List.getLast?_append, hleft, List.getLast?_cons, Option.some_or]
      _ = cs.getLast? := by rw [Calls.append_splitBeforePair]
  · rw [h] at hnone
    cases hnone

/-- **Behind a complete text the search for tags begins anew.** -/
theorem Complete.tagBodies_append (h : Complete cs) :
    Calls.tagBodies (cs ++ rest) = Calls.tagBodies cs ++ Calls.tagBodies rest := by
  obtain ⟨closed, brace⟩ := h
  fun_induction closesTags cs with
  | case1 => simp [Calls.tagBodies]
  | case2 c =>
      have hc : c ≠ '\x7b' := by simpa using brace
      rw [List.singleton_append, tagBodies_skip fun hbrace => absurd hbrace hc]
      simp [Calls.tagBodies]
  | case3 d inner a b hpair hle ih =>
      obtain ⟨hclosed, hlater⟩ := Bool.and_eq_true_iff.mp closed
      have hinner : inner ≠ [] := by
        rintro rfl
        cases hclosed
      have hlast : (Calls.splitBeforePair a b inner).2.getLast? ≠ some '\x7b' := by
        rw [getLast?_splitBeforePair hclosed]
        simpa [List.getLast?_cons, List.getLast?_eq_some_getLast hinner] using brace
      rw [List.cons_append, List.cons_append, Calls.tagBodies, Calls.tagBodies, if_pos rfl,
        if_pos rfl, hpair]
      dsimp only
      rw [splitBeforePair_append hclosed, ih hlater hlast, List.cons_append]
  | case4 d inner hpair ih =>
      have hskip : ∀ e, (d :: inner).head? = some e → Calls.closingPair? e = none := by
        rintro e ⟨⟩
        exact hpair
      rw [tagBodies_skip fun _ => hskip,
        ← ih closed (by simpa [List.getLast?_cons_cons] using brace)]
      exact tagBodies_skip fun _ => hskip
  | case5 c d inner hc ih =>
      rw [tagBodies_skip fun hbrace => absurd hbrace hc,
        ← ih closed (by simpa [List.getLast?_cons_cons] using brace)]
      exact tagBodies_skip fun hbrace => absurd hbrace hc

/-- A text without braces is complete, and opens no tag. -/
theorem complete_of_no_brace (h : '\x7b' ∉ cs) : Complete cs ∧ Calls.tagBodies cs = [] := by
  refine ⟨⟨?_, fun hlast => h (List.mem_of_getLast? hlast)⟩, ?_⟩
  · fun_induction closesTags cs with
    | case1 => rfl
    | case2 => rfl
    | case3 => exact absurd List.mem_cons_self h
    | case4 => exact absurd List.mem_cons_self h
    | case5 c d inner hc ih => exact ih fun hmem => h (List.mem_cons_of_mem c hmem)
  · refine tagBodies_eq_nil ?_
    rw [opensTag, hasPair_of_not_mem h, hasPair_of_not_mem h, Bool.or_false]

end Complete

/-! ### Sources -/

section Sources

variable {s t u : String} {pieces pieces' : List String}

/-- **A complete source calls its names, and what follows calls its own.** -/
theorem calledNames_append (h : Complete s.toList) :
    calledNames (s ++ t) = calledNames s ++ calledNames t := by
  rw [calledNames, String.toList_append, h.tagBodies_append, List.flatMap_append, List.map_append]
  rfl

/-- Text without braces behind a complete source calls nothing, and leaves it complete. -/
theorem calledNames_insert (h : Complete s.toList) (brace : '\x7b' ∉ u.toList) :
    calledNames (s ++ u ++ t) = calledNames (s ++ t) := by
  obtain ⟨hcomplete, hbodies⟩ := complete_of_no_brace brace
  have hnone : calledNames u = [] := by
    rw [calledNames, hbodies]
    rfl
  rw [String.append_assoc, calledNames_append h, calledNames_append hcomplete, hnone,
    List.nil_append, calledNames_append h]

theorem calledNames_join (h : ∀ piece ∈ pieces, Complete piece.toList) :
    calledNames (String.join pieces ++ t) = pieces.flatMap calledNames ++ calledNames t := by
  induction pieces with
  | nil => rw [String.join_nil, String.empty_append, List.flatMap_nil, List.nil_append]
  | cons piece pieces ih =>
      rw [String.join_cons, String.append_assoc,
        calledNames_append (h piece List.mem_cons_self),
        ih fun piece hpiece => h piece (List.mem_cons_of_mem _ hpiece), List.flatMap_cons,
        List.append_assoc]

/-- Two sources call the same names. -/
def CallAlike (s t : String) : Prop := ∀ name, name ∈ calledNames s ↔ name ∈ calledNames t

/-- **At the end of a complete source nothing but the parts matters.**  A source and what follows it
call what the one and the other call; text without braces between them can come and go; and complete
pieces between them can change their order. -/
theorem called_at_boundary (h : Complete s.toList) :
    (∀ t name, name ∈ calledNames (s ++ t) ↔ name ∈ calledNames s ∨ name ∈ calledNames t) ∧
      (∀ u t, '\x7b' ∉ u.toList → CallAlike (s ++ u ++ t) (s ++ t)) ∧
      ∀ pieces pieces' t, (∀ piece ∈ pieces, Complete piece.toList) → pieces.Perm pieces' →
        CallAlike (s ++ String.join pieces ++ t) (s ++ String.join pieces' ++ t) := by
  refine ⟨fun t name => ?_, fun u t brace name => ?_, fun pieces pieces' t complete perm name => ?_⟩
  · rw [calledNames_append h, List.mem_append]
  · rw [calledNames_insert h brace]
  · have complete' : ∀ piece ∈ pieces', Complete piece.toList :=
      fun piece hpiece => complete piece (perm.mem_iff.mpr hpiece)
    rw [String.append_assoc, String.append_assoc, calledNames_append h, calledNames_append h,
      calledNames_join complete, calledNames_join complete', List.mem_append, List.mem_append,
      List.mem_append, List.mem_append, (perm.flatMap_right calledNames).mem_iff]

theorem called_at_boundary_of_tag :
    (∀ name, name ∈ calledNames ("\x7b% if f(1) %\x7d" ++ "\x7b\x7b g('\x7d\x7d") ↔
      name ∈ calledNames "\x7b% if f(1) %\x7d" ∨ name ∈ calledNames "\x7b\x7b g('\x7d\x7d") ∧
    CallAlike ("\x7b% if f(1) %\x7d" ++ "%\x7d h(" ++ "\x7b\x7b g(")
      ("\x7b% if f(1) %\x7d" ++ "\x7b\x7b g(") ∧
    CallAlike ("\x7b% if f(1) %\x7d" ++ String.join ["\x7b\x7b a() \x7d\x7d", "é"] ++ "\x7b\x7b g(")
      ("\x7b% if f(1) %\x7d" ++ String.join ["é", "\x7b\x7b a() \x7d\x7d"] ++ "\x7b\x7b g(") := by
  have h : Complete "\x7b% if f(1) %\x7d".toList := by decide +kernel
  obtain ⟨happend, hinsert, hperm⟩ := called_at_boundary h
  exact ⟨happend _, hinsert _ _ (by decide +kernel),
    hperm _ _ _ (by decide +kernel) (by decide +kernel)⟩

/-- A brace at the end opens a tag together with what follows, and a tag that is left open takes
what follows into it. -/
example : calledNames ("\x7b" ++ "\x7b f() \x7d\x7d") = ["f"] ∧
    calledNames "\x7b f() \x7d\x7d" = [] ∧
    calledNames ("\x7b\x7b '" ++ "\x7b\x7b f() \x7d\x7d") = [] := by
  decide +kernel

end Sources

end Folio.Template
