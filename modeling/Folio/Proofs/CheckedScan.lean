/-
The scan of a source, with every read of a byte and every cut checked.

The loop over the source looks for a brace, cuts off what is in front of it, and goes through the
body of the tag if the brace opens one.  All cuts are on a side of a byte of ASCII or at the end of
the source, so that none is refused.  The search goes on at the closing delimiter, and so on a text
that has lost at least the two bytes that opened the tag.

What is found is a part of the source and a word, which is read off the scan of characters: each
name is a run of word characters in a body, and each body a part of the source.
-/
import Folio.Proofs.CheckedBody

namespace Folio.Template

/-! ### The scan of a source -/

/-- The scan of a source. -/
inductive SourceScan where
  /-- Before the next tag. -/
  | search (rest : String) (names : List String)
  /-- In the body of a tag, which is the text up to a place. -/
  | inBody (text : String) (stop : Nat) (body : String) (scan : BodyScan)

namespace SourceScan

/-- The names that have been found. -/
def names : SourceScan → List String
  | .search _ names => names
  | .inBody _ _ _ scan => scan.names

/-- Behind an opening brace the scan goes on in the body of a tag, if the brace opens one. -/
def behindBrace (after : String) (names : List String) : Except Misread SourceScan :=
  match (bytesOf after).head?.bind Calls.closingPair? with
  | none => .ok (.search after names)
  | some (a, b) => do
    let text ← pieceOf after 1 after.utf8ByteSize
    let stop := (firstPlace? [a, b] (bytesOf text)).getD text.utf8ByteSize
    let body ← pieceOf text 0 stop
    return .inBody text stop body ⟨.between ' ' 0, names⟩

/-- One iteration of the loop over the source, up to the body of a tag and behind it, or one of
the scan of the body. -/
def step : CheckedLoop SourceScan
  | .search rest names =>
    match firstPlace? ['\x7b'] (bytesOf rest) with
    | none => .ok none
    | some i => do
      let after ← pieceOf rest (i + 1) rest.utf8ByteSize
      some <$> behindBrace after names
  | .inBody text stop body scan => do
    match ← scan.step body with
    | some scan => return some (.inBody text stop body scan)
    | none =>
      let rest ← pieceOf text stop text.utf8ByteSize
      return some (.search rest scan.names)

/-- The scan before its first step. -/
def start (source : String) : SourceScan := .search source []

/-- What is left to do: the bytes that the loop over the source has not passed, and within a body
what is left of that. -/
def left : SourceScan → ℕ ×ₗ ℕ ×ₗ ℕ ×ₗ ℕ
  | .search rest _ => toLex (rest.utf8ByteSize, toLex (0, toLex (0, 0)))
  | .inBody text _ body scan => toLex (text.utf8ByteSize, scan.left body)

/-- What has been read agrees with where the scan stands. -/
def Sound : SourceScan → Prop
  | .search _ _ => True
  | .inBody text stop body scan => IsPlace text stop ∧ scan.Sound body

/-- The names that have been found and those that are found from here on. -/
def all : SourceScan → List String
  | .search rest names => names ++ (scanned (bytesOf rest)).map String.ofList
  | .inBody text stop body scan =>
    scan.all body ++ (scanned ((bytesOf text).drop stop)).map String.ofList

/-- The scan goes on. -/
def GoesOn (s : SourceScan) : Prop := ∃ t, step.Onward left all s t ∧ t.Sound

end SourceScan

section Tags

variable {a b d : Char} {cs word text : List Char}

theorem firstPlace?_getD_cons : (firstPlace? word (b :: cs)).getD (b :: cs).length =
    if word <+: b :: cs then 0 else (firstPlace? word cs).getD cs.length + 1 := by
  rw [firstPlace?]
  by_cases h : word <+: b :: cs
  · rw [if_pos h, if_pos h, Option.getD_some]
  · rw [if_neg h, if_neg h]
    cases firstPlace? word cs <;> rfl

/-- The text before the first brace has no part in the scan. -/
theorem scanned_firstBrace :
    scanned (cs.drop ((firstPlace? ['\x7b'] cs).getD cs.length)) = scanned cs := by
  induction cs with
  | nil => rfl
  | cons c cs ih =>
      rw [firstPlace?_getD_cons]
      by_cases hc : c = '\x7b'
      · rw [if_pos (by simp [hc]), List.drop_zero]
      · rw [if_neg (by simpa [eq_comm] using hc), List.drop_succ_cons, ih, scanned_skip hc]

theorem splitBeforePair_firstPlace : Calls.splitBeforePair a b cs =
    (cs.take ((firstPlace? [a, b] cs).getD cs.length),
      cs.drop ((firstPlace? [a, b] cs).getD cs.length)) := by
  induction cs with
  | nil => rfl
  | cons c cs ih =>
      have hiff : [a, b] <+: c :: cs ↔ c = a ∧ cs.head? = some b := by
        cases cs <;> simp [List.cons_prefix_cons, eq_comm]
      rw [firstPlace?_getD_cons, Calls.splitBeforePair, ih]
      by_cases h : c = a ∧ cs.head? = some b
      · rw [if_pos h, if_pos (hiff.mpr h), List.take_zero, List.drop_zero]
      · rw [if_neg h, if_neg fun h' => h (hiff.mp h'), List.take_succ_cons, List.drop_succ_cons]

theorem scanned_tag_open (h : Calls.closingPair? d = some (a, b)) :
    scanned ('\x7b' :: d :: text) =
      Calls.namesIn ' ' (text.take ((firstPlace? [a, b] text).getD text.length)) ++
        scanned (text.drop ((firstPlace? [a, b] text).getD text.length)) := by
  rw [scanned, Calls.tagBodies, if_pos rfl, h]
  dsimp only
  rw [splitBeforePair_firstPlace]
  rfl

theorem scanned_no_tag (h : cs.head?.bind Calls.closingPair? = none) :
    scanned ('\x7b' :: cs) = scanned cs := by
  rw [scanned, tagBodies_skip]
  · rfl
  · intro _ d hd
    rwa [hd] at h

theorem ascii_of_closingPair? (h : Calls.closingPair? d = some (a, b)) :
    d.toNat < 128 ∧ a.toNat < 128 := by
  obtain ⟨kind, tag, rfl, delimiter⟩ := closingPair?_eq_some h
  cases kind with
  | output => cases delimiter; decide
  | statement => cases delimiter; decide
  | comment => exact absurd rfl tag

/-- Where a word is looked for that begins with a byte of ASCII, a text can be taken apart. -/
theorem isPlace_firstPlace {s : String} (ha : a.toNat < 128) :
    IsPlace s ((firstPlace? (a :: word) (bytesOf s)).getD s.utf8ByteSize) := by
  cases h : firstPlace? (a :: word) (bytesOf s) with
  | none => exact isPlace_size
  | some place =>
      obtain ⟨rest, hrest⟩ := drop_of_firstPlace? h
      exact (places_of_ascii (getElem?_of_drop hrest) ha).1

end Tags

namespace SourceScan

variable {rest text body : String} {names : List String} {stop : Nat} {scan : BodyScan}

theorem left_pos : toLex (0, toLex (0, 0)) < scan.left body := by
  have hrank : ∀ {m rank n : Nat}, 0 < rank →
      (toLex (0, toLex (0, 0)) : ℕ ×ₗ ℕ ×ₗ ℕ) < toLex (m, toLex (rank, n)) := by
    intro m rank n h
    exact Prod.Lex.toLex_lt_toLex'.mpr ⟨Nat.zero_le m, fun _ => left_lt h⟩
  obtain ⟨c, names⟩ := scan
  cases c <;> exact hrank (by decide)

/-- Behind an opening brace nothing is refused, and what is left of the text gets shorter. -/
theorem exists_behindBrace (names : List String) {after : String} {more : List Char}
    (hbytes : bytesOf after = more) :
    ∃ t, behindBrace after names = .ok t ∧ t.Sound ∧
      t.left ≤ toLex (more.length, toLex (0, toLex (0, 0))) ∧
      t.all = names ++ (scanned ('\x7b' :: more)).map String.ofList := by
  have hsize : after.utf8ByteSize = more.length := by rw [← length_bytesOf, hbytes]
  cases hclose : more.head?.bind Calls.closingPair? with
  | none =>
      refine ⟨.search after names, ?_, trivial, ?_, ?_⟩
      · rw [behindBrace, hbytes, hclose]
      · rw [left, hsize]
      · rw [all, hbytes, scanned_no_tag hclose]
  | some pair =>
      obtain ⟨a, b⟩ := pair
      obtain ⟨d, hhead, hpair⟩ := Option.bind_eq_some_iff.mp hclose
      obtain ⟨inner, rfl⟩ := List.head?_eq_some_iff.mp hhead
      have hascii := ascii_of_closingPair? hpair
      have hfirst : (bytesOf after)[0]? = some d := by rw [hbytes]; rfl
      obtain ⟨text, htext, hinner⟩ := pieceOf_end (places_of_ascii hfirst hascii.1).2
      rw [hbytes, List.drop_succ_cons, List.drop_zero] at hinner
      have hstop : IsPlace text ((firstPlace? [a, b] (bytesOf text)).getD text.utf8ByteSize) :=
        isPlace_firstPlace hascii.2
      obtain ⟨body, hbody, hcut⟩ := pieceOf_eq_ok isPlace_zero hstop (Nat.zero_le _)
      rw [List.drop_zero] at hcut
      refine ⟨.inBody text _ body ⟨.between ' ' 0, names⟩, ?_, ⟨hstop, trivial⟩, ?_, ?_⟩
      · rw [behindBrace, hbytes, hclose]
        show (pieceOf after 1 after.utf8ByteSize >>= _) = _
        rw [htext]
        show (pieceOf text 0 _ >>= _) = _
        rw [hbody]
        rfl
      · refine (left_lt ?_).le
        rw [← length_bytesOf, hinner, List.length_cons]
        exact Nat.lt_succ_self _
      · rw [all, BodyScan.all, Cursor.pending, List.drop_zero, hcut, scanned_tag_open hpair,
          List.map_append, List.append_assoc, ← length_bytesOf, hinner]

theorem step_search :
    step.Over all SourceScan.names (.search rest names) ∨ GoesOn (.search rest names) := by
  have hscanned := @scanned_firstBrace (bytesOf rest)
  cases hplace : firstPlace? ['\x7b'] (bytesOf rest) with
  | none =>
      rw [hplace, Option.getD_none, List.drop_length] at hscanned
      refine .inl ⟨?_, ?_⟩
      · rw [step, hplace]
      · rw [all, ← hscanned]
        simp [scanned, Calls.tagBodies, SourceScan.names]
  | some i =>
      refine .inr ?_
      obtain ⟨more, hdrop⟩ := drop_of_firstPlace? hplace
      rw [List.singleton_append] at hdrop
      rw [hplace, Option.getD_some, hdrop] at hscanned
      have hbrace := getElem?_of_drop hdrop
      obtain ⟨after, hafter, hbytes⟩ := pieceOf_end (places_of_ascii hbrace (by decide)).2
      rw [drop_succ hdrop] at hbytes
      obtain ⟨t, ht, hsound, hleft, hall⟩ := exists_behindBrace names hbytes
      refine ⟨t, ⟨?_, lt_of_le_of_lt hleft (left_lt ?_), ?_⟩, hsound⟩
      · rw [step, hplace]
        show (pieceOf rest (i + 1) rest.utf8ByteSize >>= _) = _
        rw [hafter]
        show some <$> behindBrace after names = _
        rw [ht]
        rfl
      · have hlt := lt_of_drop hdrop
        rw [← length_bytesOf, ← drop_succ hdrop, List.length_drop]
        omega
      · rw [hall, hscanned, all]

theorem step_inBody (h : (SourceScan.inBody text stop body scan).Sound) :
    GoesOn (.inBody text stop body scan) := by
  obtain ⟨hstop, hscan⟩ := h
  rcases BodyScan.finds body scan hscan with hover | ⟨t, h, ht⟩
  · obtain ⟨rest, hrest, hbytes⟩ := pieceOf_end hstop
    refine ⟨.search rest scan.names, ⟨?_, ?_, ?_⟩, trivial⟩
    · rw [step, hover.stops]
      show (pieceOf text stop text.utf8ByteSize >>= _) = _
      rw [hrest]
      rfl
    · -- Nothing of the text need be passed if the tag has no body, but the loop over it is over.
      refine Prod.Lex.toLex_lt_toLex'.mpr ⟨?_, fun _ => left_pos⟩
      rw [← length_bytesOf, ← length_bytesOf, hbytes, List.length_drop]
      exact Nat.sub_le ..
    · rw [all, all, hover.found_eq, hbytes]
  · refine ⟨.inBody text stop body t, ⟨?_, inner_lt h.less, ?_⟩, hstop, ht⟩
    · rw [step, h.goes]
      rfl
    · rw [all, all, h.all_eq]

/-- At every state the scan of a source comes to the same names. -/
theorem finds : step.Finds left all SourceScan.names Sound := by
  intro s h
  cases s with
  | search rest names => exact step_search
  | inBody text stop body scan => exact .inr (step_inBody h)

/-- The scan of a source ends with the names that are called in the source. -/
theorem completes (source : String) :
    ∃ t, step.Completes left (start source) t ∧ t.names = calledNames source := by
  have hstart : (start source).Sound := trivial
  obtain ⟨t, hcompletes, hnames⟩ := finds.completes hstart
  refine ⟨t, hcompletes, ?_⟩
  rw [hnames, start, all, List.nil_append, bytesOf_eq, scanned_spell]
  rfl

end SourceScan

/-! ### The names that are found -/

section Names

variable {before c : Char} {cs name body : List Char} {source : String}

theorem infix_of_mem_namesIn (h : name ∈ Calls.namesIn before cs) : name <:+: cs := by
  fun_induction Calls.namesIn before cs with
  | case1 => cases h
  | case2 before c rest hquote hle ih =>
      obtain ⟨text, htext, -⟩ := literalEnds_afterQuote c rest
      have hsuffix : Calls.afterQuote c rest <:+ rest := ⟨text, htext.symm⟩
      exact List.infix_cons ((ih h).trans hsuffix.isInfix)
  | case3 before c rest hquote hword hle later hopen ih =>
      rcases List.mem_cons.mp h with rfl | h
      · exact (List.cons_prefix_cons.mpr ⟨rfl, List.takeWhile_prefix _⟩).isInfix
      · exact List.infix_cons ((ih h).trans (List.dropWhile_suffix _).isInfix)
  | case4 before c rest hquote hword hle later hopen ih =>
      exact List.infix_cons ((ih h).trans (List.dropWhile_suffix _).isInfix)
  | case5 before c rest hquote hword ih => exact List.infix_cons (ih h)

theorem infix_of_mem_tagBodies (h : body ∈ Calls.tagBodies cs) : body <:+: cs := by
  fun_induction Calls.tagBodies cs with
  | case1 => cases h
  | case2 c => cases h
  | case3 d inner a b hpair hle ih =>
      have hsplit := Calls.append_splitBeforePair a b inner
      have hprefix : (Calls.splitBeforePair a b inner).1 <+: inner := ⟨_, hsplit⟩
      have hsuffix : (Calls.splitBeforePair a b inner).2 <:+ inner := ⟨_, hsplit⟩
      refine List.infix_cons (List.infix_cons ?_)
      rcases List.mem_cons.mp h with rfl | h
      · exact hprefix.isInfix
      · exact (ih h).trans hsuffix.isInfix
  | case4 d inner hpair ih => exact List.infix_cons (ih h)
  | case5 c d inner hc ih => exact List.infix_cons (ih h)

theorem head?_of_mem_namesIn (h : name ∈ Calls.namesIn before cs) :
    ∃ c, name.head? = some c ∧ Text.isWordStart c = true := by
  fun_induction Calls.namesIn before cs with
  | case1 => cases h
  | case2 before c rest hquote hle ih => exact ih h
  | case3 before c rest hquote hword hle later hopen ih =>
      rcases List.mem_cons.mp h with rfl | h
      · exact ⟨c, rfl, hword⟩
      · exact ih h
  | case4 before c rest hquote hword hle later hopen ih => exact ih h
  | case5 before c rest hquote hword ih => exact ih h

theorem isLetter_eq : Text.isLetter c = c.isAlpha := by
  have hlower : c.isLower = (decide ('a' ≤ c) && decide (c ≤ 'z')) := rfl
  have hupper : c.isUpper = (decide ('A' ≤ c) && decide (c ≤ 'Z')) := Bool.decide_and ..
  show Text.isLetter c = (c.isUpper || c.isLower)
  rw [Bool.or_comm, hlower, hupper]
  rfl

theorem isWordStart_iff : Text.isWordStart c = true ↔ c.isAlpha = true ∨ c = '_' := by
  rw [Text.isWordStart, isLetter_eq, Bool.or_eq_true, decide_eq_true_eq]

theorem isWordChar_iff : Text.isWordChar c = true ↔ c.isAlphanum = true ∨ c = '_' := by
  have halphanum : c.isAlphanum = (c.isAlpha || Text.isDigit c) := rfl
  rw [Text.isWordChar, Bool.or_eq_true, isWordStart_iff, halphanum, Bool.or_eq_true, or_right_comm]

/-- A name that is called in a source is called in a part of it. -/
theorem exists_body_of_mem_calledNames {name : String} (h : name ∈ calledNames source) :
    ∃ body, body <:+: source.toList ∧ name.toList ∈ Calls.namesIn ' ' body := by
  obtain ⟨word, hword, rfl⟩ := List.mem_map.mp h
  obtain ⟨body, hbody, hword⟩ := List.mem_flatMap.mp hword
  rw [String.toList_ofList]
  exact ⟨body, infix_of_mem_tagBodies hbody, hword⟩

end Names

/-- **The scan reads and cuts only where it may, comes to an end, and finds words of the source.**
In a literal it can come to stand behind the end of a body, where it reads nothing. -/
theorem scan_completes :
    (∀ source, ∃ t, SourceScan.step.Completes SourceScan.left (.start source) t ∧
      t.names = calledNames source) ∧
    (∀ body, ∃ t, (BodyScan.step body).Completes (BodyScan.left body) .start t ∧
      t.names = (Calls.namesIn ' ' body.toList).map String.ofList) ∧
    (∃ body t, (BodyScan.step body).Passes .start t ∧ body.utf8ByteSize < t.cursor.place) ∧
    ∀ source, ∀ name ∈ calledNames source, name.toList <:+: source.toList ∧
      (∃ c, name.toList.head? = some c ∧ (c.isAlpha ∨ c = '_')) ∧
      ∀ c ∈ name.toList, c.isAlphanum ∨ c = '_' := by
  refine ⟨SourceScan.completes, BodyScan.completes, ?_, ?_⟩
  · -- The backslash behind the quote takes along a byte that is not there.
    exact ⟨"'\\", ⟨.literal '\'' 3, []⟩, .next rfl (.next rfl (.here _)), by decide⟩
  · intro source name h
    obtain ⟨body, hbody, hname⟩ := exists_body_of_mem_calledNames h
    obtain ⟨c, hhead, hstart⟩ := head?_of_mem_namesIn hname
    exact ⟨(infix_of_mem_namesIn hname).trans hbody, ⟨c, hhead, isWordStart_iff.mp hstart⟩,
      fun d hd => isWordChar_iff.mp (isWordChar_of_mem_namesIn hname d hd)⟩

/-- The name behind a character beyond ASCII is found, although the literal and the tag are not
closed. -/
theorem scan_completes_unclosed : "f" ∈ calledNames "é\x7b\x7bé f ('\\" ∧
    "f".toList <:+: "é\x7b\x7bé f ('\\".toList ∧
    (∃ c, "f".toList.head? = some c ∧ (c.isAlpha ∨ c = '_')) ∧
    ∀ c ∈ "f".toList, c.isAlphanum ∨ c = '_' := by
  have hcalled : "f" ∈ calledNames "é\x7b\x7bé f ('\\" := by decide +kernel
  exact ⟨hcalled, scan_completes.2.2.2 _ _ hcalled⟩

end Folio.Template
