/-
The called names of a text by the pieces that it consists of.

Here it is said without a scan which names a text calls.  It is cut into the bodies of its tags
(`Bodies`), a body into literals, words and other characters (`Cut`), and of the words those count
behind which an opening parenthesis comes and that belong to nothing before them (`CalledAmong`).
Each text is cut in one way only (`bodies_iff`, `cut_unique`), and the names that are called are those
that the scan finds (`mem_scanned_iff`).

The scan remembers one character of what it has passed.  `Attached` says what this character tells
about the pieces before: whether the last one of them that is no blank is a dot or a bar.
-/
import Folio.Proofs.Sections
import Mathlib.Logic.ExistsUnique

namespace Folio.Template

/-! ### Cutting a text into the bodies of its tags -/

/-- Nowhere in the text stands what opens a tag. -/
def NoOpening (cs : List Char) : Prop :=
  ¬ ['\x7b', '\x7b'] <:+: cs ∧ ¬ ['\x7b', '%'] <:+: cs

/-- The bodies of the tags of a text.  A tag begins at the first opening delimiter and its body ends
before the first delimiter that closes it, if there is one; the next tag is looked for from that
delimiter on. -/
inductive Bodies : List Char → List (List Char) → Prop
  | done {cs : List Char} (opening : NoOpening cs) : Bodies cs []
  | closed {kind : TagKind} {a b : Char} {cs lead body rest : List Char} {bodies : List (List Char)}
      (tag : kind ≠ .comment) (delimiter : kind.closing = (a, b))
      (cut : cs = lead ++ '\x7b' :: kind.mark :: (body ++ a :: b :: rest))
      (first : NoOpening (lead ++ ['\x7b'])) (closing : ¬ [a, b] <:+: body ++ [a])
      (later : Bodies (a :: b :: rest) bodies) : Bodies cs (body :: bodies)
  | unclosed {kind : TagKind} {a b : Char} {cs lead body : List Char}
      (tag : kind ≠ .comment) (delimiter : kind.closing = (a, b))
      (cut : cs = lead ++ '\x7b' :: kind.mark :: body)
      (first : NoOpening (lead ++ ['\x7b'])) (closing : ¬ [a, b] <:+: body) : Bodies cs [body]

section Bodies

variable {kind : TagKind} {a b c : Char} {cs rest : List Char} {bodies : List (List Char)}

theorem hasPair_iff : hasPair a b cs = true ↔ [a, b] <:+: cs := by
  induction cs with
  | nil => simp [hasPair]
  | cons c rest ih =>
      rw [hasPair_cons, List.infix_cons_iff, List.cons_prefix_cons, Bool.or_eq_true, ih]
      cases rest with
      | nil => simp
      | cons d rest => simp [@eq_comm _ a c, @eq_comm _ b d]

theorem hasPair_eq_false : hasPair a b cs = false ↔ ¬ [a, b] <:+: cs := by
  rw [← hasPair_iff, Bool.not_eq_true]

theorem opensTag_eq_false : opensTag cs = false ↔ NoOpening cs := by
  rw [opensTag, Bool.or_eq_false_iff, hasPair_eq_false, hasPair_eq_false, NoOpening]

theorem tagBodies_eq_nil (h : opensTag cs = false) : Calls.tagBodies cs = [] := by
  rcases cs.eq_nil_or_concat with rfl | ⟨lead, c, rfl⟩
  · simp [Calls.tagBodies]
  · rw [List.concat_eq_append] at h ⊢
    rw [tagBodies_append h]
    simp [Calls.tagBodies]

theorem splitBeforePair_none (h : hasPair a b cs = false) :
    Calls.splitBeforePair a b cs = (cs, []) := by
  induction cs with
  | nil => rfl
  | cons c rest ih =>
      rw [hasPair_cons, Bool.or_eq_false_iff] at h
      rw [Calls.splitBeforePair, if_neg (by simpa using h.1), ih h.2]

theorem splitBeforePair_spec (a b : Char) (cs : List Char) :
    (∃ rest, (Calls.splitBeforePair a b cs).2 = a :: b :: rest ∧
      hasPair a b ((Calls.splitBeforePair a b cs).1 ++ [a]) = false) ∨
    (Calls.splitBeforePair a b cs = (cs, []) ∧ hasPair a b cs = false) := by
  fun_induction Calls.splitBeforePair a b cs with
  | case1 => exact .inr ⟨rfl, rfl⟩
  | case2 c rest hpair =>
      obtain ⟨rfl, hhead⟩ := hpair
      obtain ⟨more, rfl⟩ := List.head?_eq_some_iff.mp hhead
      exact .inl ⟨more, rfl, by simp [hasPair]⟩
  | case3 c rest hpair body left hsplit ih =>
      rw [hsplit] at ih
      rcases ih with ⟨more, hleft, hbody⟩ | ⟨heq, hrest⟩
      · refine .inl ⟨more, hleft, ?_⟩
        have happend := Calls.append_splitBeforePair a b rest
        rw [hsplit] at happend
        dsimp only at hleft happend hbody ⊢
        rw [hleft] at happend
        rw [← happend, head?_append_cons] at hpair
        rw [List.cons_append, hasPair_cons, hbody, Bool.or_false]
        simpa using hpair
      · cases heq
        refine .inr ⟨rfl, ?_⟩
        rw [hasPair_cons, hrest, Bool.or_false]
        simpa using hpair

theorem closingPair?_mark (tag : kind ≠ .comment) :
    Calls.closingPair? kind.mark = some kind.closing := by
  cases kind <;> first | rfl | exact absurd rfl tag

theorem closingPair?_eq_some (h : Calls.closingPair? c = some (a, b)) :
    ∃ kind : TagKind, kind ≠ .comment ∧ kind.mark = c ∧ kind.closing = (a, b) := by
  unfold Calls.closingPair? at h
  split at h
  · exact ⟨.output, by decide, rfl, Option.some.inj h⟩
  · exact ⟨.statement, by decide, rfl, Option.some.inj h⟩
  · cases h

/-- What stands before the first tag has no part in the bodies. -/
theorem tagBodies_first {lead body : List Char} (tag : kind ≠ .comment)
    (delimiter : kind.closing = (a, b)) (first : NoOpening (lead ++ ['\x7b'])) :
    Calls.tagBodies (lead ++ '\x7b' :: kind.mark :: body) =
      (Calls.splitBeforePair a b body).1 :: Calls.tagBodies (Calls.splitBeforePair a b body).2 := by
  rw [tagBodies_append (opensTag_eq_false.mpr first), Calls.tagBodies, if_pos rfl,
    closingPair?_mark tag, delimiter]

theorem Bodies.eq_tagBodies (h : Bodies cs bodies) : bodies = Calls.tagBodies cs := by
  induction h with
  | done opening => exact (tagBodies_eq_nil (opensTag_eq_false.mpr opening)).symm
  | closed tag delimiter cut first closing later ih =>
      rw [cut, tagBodies_first tag delimiter first,
        splitBeforePair_clean (hasPair_eq_false.mpr closing), ih]
  | unclosed tag delimiter cut first closing =>
      rw [cut, tagBodies_first tag delimiter first,
        splitBeforePair_none (hasPair_eq_false.mpr closing)]
      simp [Calls.tagBodies]

theorem Bodies.skip (h : Bodies rest bodies)
    (hc : c = '\x7b' → ∀ d, rest.head? = some d → Calls.closingPair? d = none) :
    Bodies (c :: rest) bodies := by
  have hcons : ∀ {cs : List Char}, NoOpening cs → cs.head? = rest.head? → NoOpening (c :: cs) := by
    intro cs hcs hhead
    rw [← opensTag_eq_false] at hcs ⊢
    rw [opensTag, Bool.or_eq_false_iff] at hcs ⊢
    rw [hasPair_cons, hasPair_cons, hcs.1, hcs.2, hhead]
    constructor
    all_goals
      simp only [Bool.or_false, Bool.and_eq_false_imp, decide_eq_true_eq, decide_eq_false_iff_not]
      intro hbrace hmark
      exact absurd (hc hbrace _ hmark) (by decide)
  cases h with
  | done opening => exact .done (hcons opening rfl)
  | @closed kind a b _ lead body more _ tag delimiter cut first closing later =>
      have hcut : c :: rest = (c :: lead) ++ '\x7b' :: kind.mark :: (body ++ a :: b :: more) := by
        rw [cut, List.cons_append]
      have hfirst : NoOpening (c :: (lead ++ ['\x7b'])) :=
        hcons first (by rw [cut]; exact head?_append_cons.symm)
      exact .closed tag delimiter hcut hfirst closing later
  | @unclosed kind a b _ lead body tag delimiter cut first closing =>
      have hcut : c :: rest = (c :: lead) ++ '\x7b' :: kind.mark :: body := by
        rw [cut, List.cons_append]
      have hfirst : NoOpening (c :: (lead ++ ['\x7b'])) :=
        hcons first (by rw [cut]; exact head?_append_cons.symm)
      exact .unclosed tag delimiter hcut hfirst closing

theorem bodies_tagBodies (cs : List Char) : Bodies cs (Calls.tagBodies cs) := by
  fun_induction Calls.tagBodies cs with
  | case1 => exact .done (opensTag_eq_false.mp rfl)
  | case2 c => exact .done (opensTag_eq_false.mp (by simp [opensTag, hasPair]))
  | case3 d inner a b hpair hle ih =>
      obtain ⟨kind, tag, rfl, delimiter⟩ := closingPair?_eq_some hpair
      have first : NoOpening ([] ++ ['\x7b']) := opensTag_eq_false.mp (by decide)
      rcases splitBeforePair_spec a b inner with ⟨rest, hleft, hbody⟩ | ⟨heq, hnone⟩
      · have happend := Calls.append_splitBeforePair a b inner
        rw [hleft] at ih happend ⊢
        exact .closed tag delimiter (by rw [happend, List.nil_append]) first
          (hasPair_eq_false.mp hbody) ih
      · rw [heq]
        simpa [Calls.tagBodies] using
          Bodies.unclosed tag delimiter rfl first (hasPair_eq_false.mp hnone)
  | case4 d inner hpair ih => exact ih.skip fun _ e he => by cases he; exact hpair
  | case5 c d inner hc ih => exact ih.skip fun hbrace => absurd hbrace hc

/-- **A text is cut into tags in one way**, the one in which the scan cuts it. -/
theorem bodies_iff : Bodies cs bodies ↔ bodies = Calls.tagBodies cs :=
  ⟨Bodies.eq_tagBodies, fun h => h ▸ bodies_tagBodies cs⟩

end Bodies

/-! ### Cutting a body into pieces -/

/-- A piece of the body of a tag. -/
inductive Piece where
  | literal (text : List Char)
  | word (name : List Char)
  | other (c : Char)

/-- No quotation mark `q` stands in the text but behind a backslash, and no backslash stands at its
end that takes nothing along. -/
inductive Unquoted (q : Char) : List Char → Prop
  | nil : Unquoted q []
  | plain {c : Char} {rest : List Char} (quote : c ≠ q) (backslash : c ≠ '\\')
      (later : Unquoted q rest) : Unquoted q (c :: rest)
  | escaped {c : Char} {rest : List Char} (later : Unquoted q rest) : Unquoted q ('\\' :: c :: rest)

/-- A text behind an opening quotation mark is cut where the literal ends. -/
inductive LiteralEnds (q : Char) : List Char → List Char → Prop
  | closed {inner rest : List Char} (unquoted : Unquoted q inner) :
      LiteralEnds q (inner ++ [q]) rest
  | unclosed {inner : List Char} (unquoted : Unquoted q inner) : LiteralEnds q inner []
  | backslash {inner : List Char} (unquoted : Unquoted q inner) : LiteralEnds q (inner ++ ['\\']) []

/-- The pieces of the body of a tag.  A word is as long as it can be, and a literal that is not closed
runs to the end. -/
inductive Cut : List Char → List Piece → Prop
  | nil : Cut [] []
  | literal {q : Char} {cs text rest : List Char} {pieces : List Piece} (quote : q = '\'' ∨ q = '"')
      (cut : cs = text ++ rest) (ends : LiteralEnds q text rest) (later : Cut rest pieces) :
      Cut (q :: cs) (.literal (q :: text) :: pieces)
  | word {c : Char} {cs w rest : List Char} {pieces : List Piece} (start : Text.isWordStart c = true)
      (cut : cs = w ++ rest) (chars : ∀ d ∈ w, Text.isWordChar d = true)
      (longest : ∀ d, rest.head? = some d → Text.isWordChar d = false) (later : Cut rest pieces) :
      Cut (c :: cs) (.word (c :: w) :: pieces)
  | other {c : Char} {rest : List Char} {pieces : List Piece} (quote : ¬ (c = '\'' ∨ c = '"'))
      (start : Text.isWordStart c = false) (later : Cut rest pieces) :
      Cut (c :: rest) (.other c :: pieces)

section Cut

variable {q c : Char} {cs text rest inner body : List Char} {pieces : List Piece}

theorem Unquoted.afterQuote (h : Unquoted q inner) (tail : List Char) :
    Calls.afterQuote q (inner ++ tail) = Calls.afterQuote q tail := by
  induction h with
  | nil => rfl
  | plain quote backslash later ih =>
      rw [List.cons_append, afterQuote_cons backslash, if_neg quote, ih]
  | escaped later ih => exact ih

/-- A literal ends where the scan takes it to end. -/
theorem LiteralEnds.afterQuote (h : LiteralEnds q text rest) (hq : q ≠ '\\') :
    Calls.afterQuote q (text ++ rest) = rest := by
  cases h with
  | closed unquoted =>
      rw [List.append_assoc, unquoted.afterQuote, List.singleton_append, afterQuote_cons hq,
        if_pos rfl]
  | unclosed unquoted => rw [unquoted.afterQuote, Calls.afterQuote]
  | backslash unquoted =>
      rw [List.append_nil, unquoted.afterQuote, Calls.afterQuote.eq_3 _ _ _ (by simp),
        if_neg hq.symm, Calls.afterQuote]

theorem LiteralEnds.plain (quote : c ≠ q) (backslash : c ≠ '\\') (h : LiteralEnds q text rest) :
    LiteralEnds q (c :: text) rest := by
  cases h with
  | closed unquoted => exact .closed (unquoted.plain quote backslash)
  | unclosed unquoted => exact .unclosed (unquoted.plain quote backslash)
  | backslash unquoted => exact .backslash (unquoted.plain quote backslash)

theorem LiteralEnds.escaped (h : LiteralEnds q text rest) :
    LiteralEnds q ('\\' :: c :: text) rest := by
  cases h with
  | closed unquoted => exact .closed unquoted.escaped
  | unclosed unquoted => exact .unclosed unquoted.escaped
  | backslash unquoted => exact .backslash unquoted.escaped

theorem literalEnds_afterQuote (q : Char) (cs : List Char) :
    ∃ text, cs = text ++ Calls.afterQuote q cs ∧ LiteralEnds q text (Calls.afterQuote q cs) := by
  fun_induction Calls.afterQuote q cs with
  | case1 => exact ⟨[], rfl, .unclosed .nil⟩
  | case2 c rest ih =>
      obtain ⟨text, htext, hends⟩ := ih
      exact ⟨'\\' :: c :: text, by rw [List.cons_append, List.cons_append, ← htext], hends.escaped⟩
  | case3 rest hrest => exact ⟨[q], rfl, .closed .nil⟩
  | case4 c rest hrest quote ih =>
      obtain ⟨text, htext, hends⟩ := ih
      by_cases hc : c = '\\'
      · -- The backslash is the last character and takes nothing along.
        cases rest with
        | nil => exact ⟨['\\'], by rw [hc]; rfl, .backslash .nil⟩
        | cons d rest => exact absurd rfl (hrest d rest hc)
      · exact ⟨c :: text, by rw [List.cons_append, ← htext], hends.plain quote hc⟩

theorem isTagBlank_wordStart (h : Text.isWordStart c = true) :
    Text.isTagBlank c = false ∧ c ≠ '(' := by
  constructor
  · refine Bool.eq_false_iff.mpr fun hblank => ?_
    simp only [Text.isTagBlank, Bool.or_eq_true, decide_eq_true_eq] at hblank
    rcases hblank with (((rfl | rfl) | rfl) | rfl) | rfl <;> exact absurd h (by decide)
  · rintro rfl
    exact absurd h (by decide)

theorem isWordStart_quote (hq : q = '\'' ∨ q = '"') : Text.isWordStart q = false := by
  rcases hq with rfl | rfl <;> decide

theorem quote_ne_backslash (hq : q = '\'' ∨ q = '"') : q ≠ '\\' := by
  rcases hq with rfl | rfl <;> decide

theorem not_head?_dropWhile {p : Char → Bool} (h : (cs.dropWhile p).head? = some c) :
    p c = false := by
  have hnot := List.head?_dropWhile_not p cs
  rw [h] at hnot
  exact hnot

theorem exists_cut (size : Nat) : ∀ {body : List Char}, body.length ≤ size →
    ∃ pieces, Cut body pieces := by
  induction size with
  | zero =>
      intro body hsize
      rw [List.length_eq_zero_iff.mp (Nat.le_zero.mp hsize)]
      exact ⟨[], .nil⟩
  | succ size ih =>
      intro body hsize
      cases body with
      | nil => exact ⟨[], .nil⟩
      | cons c rest =>
          rw [List.length_cons] at hsize
          by_cases quote : c = '\'' ∨ c = '"'
          · obtain ⟨text, htext, hends⟩ := literalEnds_afterQuote c rest
            have hle := Calls.length_afterQuote_le c rest
            obtain ⟨pieces, later⟩ := @ih (Calls.afterQuote c rest) (by omega)
            exact ⟨_, .literal quote htext hends later⟩
          · cases start : Text.isWordStart c with
            | true =>
                have hle := (List.dropWhile_suffix Text.isWordChar (l := rest)).length_le
                obtain ⟨pieces, later⟩ := @ih (rest.dropWhile Text.isWordChar) (by omega)
                refine ⟨_, .word start List.takeWhile_append_dropWhile.symm ?_ ?_ later⟩
                · exact List.all_eq_true.mp List.all_takeWhile
                · intro d hd
                  exact not_head?_dropWhile hd
            | false =>
                obtain ⟨pieces, later⟩ := @ih rest (by omega)
                exact ⟨_, .other quote start later⟩

/-- A body is cut in one way. -/
theorem Cut.unique (h : Cut body pieces) : ∀ {pieces' : List Piece}, Cut body pieces' →
    pieces' = pieces := by
  induction h with
  | nil =>
      rintro _ ⟨⟩
      rfl
  | literal quote cut ends later ih =>
      intro pieces' h'
      cases h' with
      | literal quote' cut' ends' later' =>
          have hrest := ends.afterQuote (quote_ne_backslash quote)
          rw [← cut, cut', ends'.afterQuote (quote_ne_backslash quote)] at hrest
          subst hrest
          rw [List.append_cancel_right (cut'.symm.trans cut), ih later']
      | word start => rw [isWordStart_quote quote] at start; cases start
      | other quote' => exact absurd quote quote'
  | word start cut chars longest later ih =>
      intro pieces' h'
      cases h' with
      | literal quote' => rw [isWordStart_quote quote'] at start; cases start
      | word start' cut' chars' longest' later' =>
          have hrest := dropWhile_word chars longest
          rw [← cut, cut', dropWhile_word chars' longest'] at hrest
          subst hrest
          rw [List.append_cancel_right (cut'.symm.trans cut), ih later']
      | other quote' start' => rw [start'] at start; cases start
  | other quote start later ih =>
      intro pieces' h'
      cases h' with
      | literal quote' => exact absurd quote' quote
      | word start' => rw [start] at start'; cases start'
      | other quote' start' later' => rw [ih later']

theorem cut_unique (body : List Char) : ∃! pieces, Cut body pieces := by
  obtain ⟨pieces, h⟩ := exists_cut body.length (Nat.le_refl _)
  exact ⟨pieces, h, fun _ => h.unique⟩

end Cut

/-! ### Words that are called -/

/-- A blank between other pieces. -/
def Piece.isBlank : Piece → Bool
  | .other c => Text.isTagBlank c
  | _ => false

/-- The next piece that is no blank. -/
def ahead? (after : List Piece) : Option Piece := after.find? fun p => !p.isBlank

/-- The last piece that is no blank is a dot or a bar: a word behind it is an attribute or a
filter. -/
def Attached (before : List Piece) : Prop :=
  ahead? before.reverse = some (.other '.') ∨ ahead? before.reverse = some (.other '|')

/-- The word stands among the pieces where it is called. -/
def CalledAmong (pieces : List Piece) (name : List Char) : Prop :=
  ∃ before after, pieces = before ++ .word name :: after ∧
    ahead? after = some (.other '(') ∧ ¬ Attached before

/-- The text calls the name: the body of a tag has the name among its pieces where it is called. -/
def Called (cs name : List Char) : Prop :=
  ∃ bodies, Bodies cs bodies ∧ ∃ body ∈ bodies, ∃ pieces, Cut body pieces ∧ CalledAmong pieces name

section Called

variable {before c : Char} {cs body name : List Char} {lead pieces : List Piece} {p : Piece}

/-- The word is called where the pieces stand behind others. -/
def CalledBehind (lead pieces : List Piece) (name : List Char) : Prop :=
  ∃ before after, pieces = before ++ .word name :: after ∧
    ahead? after = some (.other '(') ∧ ¬ Attached (lead ++ before)

theorem not_calledBehind_nil : ¬ CalledBehind lead [] name := by
  rintro ⟨before, after, h, -⟩
  exact absurd h (by simp)

theorem calledBehind_cons : CalledBehind lead (p :: pieces) name ↔
    (p = .word name ∧ ahead? pieces = some (.other '(') ∧ ¬ Attached lead) ∨
      CalledBehind (lead ++ [p]) pieces name := by
  constructor
  · rintro ⟨before, after, h, hopen, hfree⟩
    cases before with
    | nil =>
        cases h
        exact .inl ⟨rfl, hopen, by simpa using hfree⟩
    | cons p' before =>
        cases h
        exact .inr ⟨before, after, rfl, hopen, by simpa using hfree⟩
  · rintro (⟨rfl, hopen, hfree⟩ | ⟨before, after, rfl, hopen, hfree⟩)
    · exact ⟨[], pieces, rfl, hopen, by simpa using hfree⟩
    · exact ⟨p :: before, after, rfl, hopen, by simpa using hfree⟩

theorem attached_concat : Attached (lead ++ [p]) ↔
    if p.isBlank then Attached lead else p = .other '.' ∨ p = .other '|' := by
  cases hp : p.isBlank <;> simp [Attached, ahead?, hp]

/-- What the scan looks for behind a word is the next piece that is no blank. -/
theorem Cut.opensCall (h : Cut body pieces) :
    Calls.opensCall body = true ↔ ahead? pieces = some (.other '(') := by
  induction h with
  | nil => simp [Calls.opensCall, ahead?]
  | @literal q _ _ _ _ quote =>
      have hblank : Text.isTagBlank q = false ∧ q ≠ '(' := by
        rcases quote with rfl | rfl <;> decide
      simp [Calls.opensCall, ahead?, Piece.isBlank, hblank.1, hblank.2]
  | @word c _ _ _ _ start =>
      have hblank := isTagBlank_wordStart start
      simp [Calls.opensCall, ahead?, Piece.isBlank, hblank.1, hblank.2]
  | @other c _ _ _ _ later ih =>
      cases hblank : Text.isTagBlank c with
      | true => simpa [Calls.opensCall, ahead?, Piece.isBlank, hblank] using ih
      | false => simp [Calls.opensCall, ahead?, Piece.isBlank, hblank]

/-- **The scan finds the words that are called** in the body of a tag. -/
theorem Cut.mem_namesIn (h : Cut body pieces) : ∀ {before : Char} {lead : List Piece},
    (before = '.' ∨ before = '|' ↔ Attached lead) →
    (name ∈ Calls.namesIn before body ↔ CalledBehind lead pieces name) := by
  induction h with
  | nil =>
      intro before lead _
      exact iff_of_false (by simp [Calls.namesIn]) not_calledBehind_nil
  | @literal q cs text rest pieces quote cut ends later ih =>
      intro before lead _
      have hq : ¬ (q = '.' ∨ q = '|') := by
        rcases quote with rfl | rfl <;> decide
      have hafter : Calls.afterQuote q cs = rest := by
        rw [cut, ends.afterQuote (quote_ne_backslash quote)]
      have hlater : name ∈ Calls.namesIn q rest ↔
          CalledBehind (lead ++ [.literal (q :: text)]) pieces name := by
        refine ih ?_
        rw [attached_concat]
        simpa [Piece.isBlank] using hq
      rw [namesIn_quote quote, hafter, hlater, calledBehind_cons]
      simp
  | @word c cs w rest pieces start cut chars longest later ih =>
      intro before lead hbefore
      have hlater : name ∈ Calls.namesIn 'a' rest ↔
          CalledBehind (lead ++ [.word (c :: w)]) pieces name := by
        refine ih ?_
        rw [attached_concat]
        simp [Piece.isBlank]
      rw [namesIn_wordStart start, cut, dropWhile_word chars longest, takeWhile_word chars longest,
        calledBehind_cons, ← hbefore, ← later.opensCall, ← hlater]
      by_cases hcall : Calls.opensCall rest = true ∧ ¬ (before = '.' ∨ before = '|')
      · rw [if_pos (by simpa [and_assoc] using hcall), List.mem_cons, Piece.word.injEq]
        simp [hcall, @eq_comm _ name]
      · rw [if_neg (by simpa [and_assoc] using hcall), or_iff_right fun h => hcall h.2]
  | @other c rest pieces quote start later ih =>
      intro before lead hbefore
      rw [not_or] at quote
      have hlater : name ∈ Calls.namesIn (if Text.isTagBlank c then before else c) rest ↔
          CalledBehind (lead ++ [.other c]) pieces name := by
        refine ih ?_
        rw [attached_concat]
        cases hblank : Text.isTagBlank c with
        | true => simpa [Piece.isBlank, hblank] using hbefore
        | false => simp [Piece.isBlank, hblank]
      rw [namesIn_skip quote.2 quote.1 start, hlater, calledBehind_cons]
      simp

/-- **What the scan finds in a text is what the text calls.** -/
theorem mem_scanned_iff : name ∈ scanned cs ↔ Called cs name := by
  have hbody : ∀ {body : List Char} {pieces : List Piece}, Cut body pieces →
      (name ∈ Calls.namesIn ' ' body ↔ CalledAmong pieces name) := by
    intro body pieces h
    have hnone : ' ' = '.' ∨ ' ' = '|' ↔ Attached [] := by simp [Attached, ahead?]
    exact h.mem_namesIn hnone
  rw [scanned, List.mem_flatMap]
  constructor
  · rintro ⟨body, hmem, hname⟩
    obtain ⟨pieces, hcut, -⟩ := cut_unique body
    exact ⟨_, bodies_tagBodies cs, body, hmem, pieces, hcut, (hbody hcut).mp hname⟩
  · rintro ⟨bodies, hbodies, body, hmem, pieces, hcut, hname⟩
    rw [hbodies.eq_tagBodies] at hmem
    exact ⟨body, hmem, (hbody hcut).mpr hname⟩

end Called

end Folio.Template
