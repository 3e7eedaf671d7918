/-
The scan for called names follows the lexer through a tag.

Both read the inside of a tag from its start, the lexer token by token and the scan, which
knows nothing of tokens, word by word.  `SpelledBy` says of which characters a token consists
so far as the scan cares, and `readToken_spelled` that the lexer reads nothing else.

The two are level after most tokens.  A number is the exception: the scan takes the letters in
it for a word and may run into a word that the lexer has yet to read, as in `1e5for`.  Such a
word is no operand, since a number stands before it, so nothing is lost; `Follows` admits both
situations, and `Follows.token` is the step from one token to the next.
-/
import Folio.Proofs.StmtCallees
import Folio.Template.Calls

namespace Folio.Template

/-! ### How tokens are spelled -/

/-- The characters of which number literals consist. -/
def isNumberChar (c : Char) : Bool := Text.isWordChar c || c = '.' || c = '+' || c = '-'

/-- The characters that a token may consist of. -/
inductive SpelledBy : Token → List Char → Prop
  | pair {c d : Char} {t : Token} (known : pairToken? c d = some t) : SpelledBy t [c, d]
  | char {c : Char} {t : Token} {change : Int} (known : charToken? c = some (t, change)) :
      SpelledBy t [c]
  | str {q : Char} {inner : List Char} {s : String} (quote : q = '\'' ∨ q = '"')
      (closed : ∀ more, Calls.afterQuote q (inner ++ q :: more) = more) :
      SpelledBy (.str s) (q :: inner ++ [q])
  | number {n : Numeral} {text : List Char} (chars : ∀ c ∈ text, isNumberChar c = true) :
      SpelledBy (.ofNumeral n) text
  | word {c : Char} {rest : List Char} (start : Text.isWordStart c = true)
      (chars : ∀ d ∈ rest, Text.isWordChar d = true) :
      SpelledBy (.ident (String.ofList (c :: rest))) (c :: rest)

theorem pairToken?_ne_ident {c d : Char} {name : String} :
    pairToken? c d ≠ some (.ident name) := by
  unfold pairToken?
  split <;> simp

theorem charToken?_ne_ident {c : Char} {name : String} {change : Int} :
    charToken? c ≠ some (.ident name, change) := by
  unfold charToken?
  split <;> simp

theorem SpelledBy.endsSection {t : Token} {text : List Char} (h : SpelledBy t text) :
    t.endsSection = false := by
  cases h with
  | pair known =>
      unfold pairToken? at known
      split at known <;> cases known <;> rfl
  | char known =>
      unfold charToken? at known
      split at known <;> cases known <;> rfl
  | str => rfl
  | number => rename_i n _; cases n <;> rfl
  | word => rfl

theorem afterQuote_cons {q c : Char} (h : c ≠ '\\') (rest : List Char) :
    Calls.afterQuote q (c :: rest) = if c = q then rest else Calls.afterQuote q rest := by
  rw [Calls.afterQuote.eq_3]
  intro _ _ hc
  exact absurd hc h

/-- A character behind a text comes behind what follows a literal in it, or is part of that
literal. -/
theorem afterQuote_concat (q c : Char) : ∀ cs : List Char,
    Calls.afterQuote q (cs ++ [c]) = Calls.afterQuote q cs ++ [c] ∨
      Calls.afterQuote q (cs ++ [c]) = [] ∧ Calls.afterQuote q cs = []
  | [] => by
      refine Or.inr ⟨?_, rfl⟩
      rw [List.nil_append, Calls.afterQuote.eq_3 _ _ _ (by simp)]
      simp [Calls.afterQuote]
  | [d] => by
      by_cases hd : d = '\\'
      · subst hd
        refine Or.inr ⟨by simp [Calls.afterQuote], ?_⟩
        rw [Calls.afterQuote.eq_3 _ _ _ (by simp)]
        simp [Calls.afterQuote]
      · rw [List.cons_append, afterQuote_cons hd, afterQuote_cons hd]
        split
        · exact Or.inl rfl
        · exact afterQuote_concat q c []
  | d :: e :: rest => by
      by_cases hd : d = '\\'
      · subst hd
        exact afterQuote_concat q c rest
      · rw [List.cons_append, afterQuote_cons hd, afterQuote_cons hd]
        split
        · exact Or.inl rfl
        · exact afterQuote_concat q c (e :: rest)

theorem SpelledBy.word_of_ident {name : String} {text : List Char}
    (h : SpelledBy (.ident name) text) :
    ∃ c w, text = c :: w ∧ Text.isWordStart c = true ∧
      (∀ d ∈ w, Text.isWordChar d = true) ∧ name = String.ofList (c :: w) := by
  generalize ht : Token.ident name = t at h
  cases h with
  | pair known =>
      subst ht
      exact absurd known pairToken?_ne_ident
  | char known =>
      subst ht
      exact absurd known charToken?_ne_ident
  | str => cases ht
  | number => rename_i n _; cases n <;> cases ht
  | word start chars =>
      cases ht
      exact ⟨_, _, rfl, start, chars, rfl⟩

/-- A string literal ends where the scan takes it to end. -/
theorem splitAtQuote?_spelled {q : Char} (hq : q = '\'' ∨ q = '"') :
    ∀ {cs inner rest : List Char}, splitAtQuote? q cs = some (inner, rest) →
      cs = inner ++ q :: rest ∧ ∀ more, Calls.afterQuote q (inner ++ q :: more) = more := by
  intro cs
  fun_induction splitAtQuote? q cs with
  | case1 => intro inner rest h; simp at h
  | case2 c cs ih =>
      intro inner rest h
      simp only [Option.map_eq_some_iff] at h
      obtain ⟨⟨s, more⟩, hs, heq⟩ := h
      cases heq
      obtain ⟨rfl, hclosed⟩ := ih hs
      refine ⟨rfl, fun more' => ?_⟩
      rw [List.cons_append, List.cons_append, Calls.afterQuote]
      exact hclosed more'
  | case3 cs hcs =>
      intro inner rest h
      cases h
      refine ⟨rfl, fun more => ?_⟩
      rw [List.nil_append, afterQuote_cons (by rcases hq with rfl | rfl <;> decide), if_pos rfl]
  | case4 c cs hcs hne ih =>
      intro inner rest h
      simp only [Option.map_eq_some_iff] at h
      obtain ⟨⟨s, more⟩, hs, heq⟩ := h
      cases heq
      obtain ⟨rfl, hclosed⟩ := ih hs
      refine ⟨rfl, fun more' => ?_⟩
      -- A backslash would have taken the character behind it along.
      have hc : c ≠ '\\' := by
        rintro rfl
        cases s with
        | nil => exact hcs _ _ rfl rfl
        | cons d s => exact hcs _ _ rfl rfl
      rw [List.cons_append, afterQuote_cons hc, if_neg hne]
      exact hclosed more'

theorem isNumberChar_of_isDigit {c : Char} (h : Text.isDigit c = true) :
    isNumberChar c = true := by
  simp [isNumberChar, Text.isWordChar, h]

theorem isNumberChar_of_digitValue? {c : Char} (h : (Text.digitValue? 16 c).isSome = true) :
    isNumberChar c = true := by
  by_cases hdigit : Text.isDigit c = true
  · exact isNumberChar_of_isDigit hdigit
  · by_cases hlower : 'a' ≤ c ∧ c ≤ 'f'
    · have hz : c ≤ 'z' := Char.le_trans hlower.2 (by decide)
      simp [isNumberChar, Text.isWordChar, Text.isWordStart, Text.isLetter, hlower.1, hz]
    · by_cases hupper : 'A' ≤ c ∧ c ≤ 'F'
      · have hz : c ≤ 'Z' := Char.le_trans hupper.2 (by decide)
        simp [isNumberChar, Text.isWordChar, Text.isWordStart, Text.isLetter, hupper.1, hz]
      · simp [Text.digitValue?, hdigit, hlower, hupper] at h

theorem spanNumber_spelled (radix : Nat) (part : NumberPart) (cs : List Char) :
    cs = (spanNumber radix part cs).1 ++ (spanNumber radix part cs).2.2 ∧
      ∀ c ∈ (spanNumber radix part cs).1, isNumberChar c = true := by
  fun_induction spanNumber radix part cs with
  | case1 => simp
  | case2 part c cs next part' hnext cs' part'' rest hrest ih =>
      have hc : isNumberChar c = true := by
        simp only [next] at hnext
        split at hnext
        · rename_i h
          simp only [Bool.and_eq_true, decide_eq_true_eq] at h
          rw [h.1.1]
          decide
        · split at hnext
          · rename_i h
            simp only [Bool.and_eq_true, Bool.or_eq_true, decide_eq_true_eq] at h
            rcases h.1 with rfl | rfl <;> decide
          · split at hnext
            · rename_i h
              simp only [Bool.and_eq_true, Bool.or_eq_true, decide_eq_true_eq] at h
              rcases h.1 with rfl | rfl <;> decide
            · split at hnext
              · exact isNumberChar_of_isDigit (by assumption)
              · split at hnext
                · rename_i h
                  simp only [Bool.and_eq_true] at h
                  exact isNumberChar_of_digitValue? h.2
                · split at hnext
                  · rename_i h
                    rw [h]
                    decide
                  · simp at hnext
      rw [hrest] at ih
      refine ⟨by rw [ih.1]; rfl, ?_⟩
      intro d hd
      rcases List.mem_cons.mp hd with rfl | hd
      · exact hc
      · exact ih.2 d hd
  | case3 => simp

theorem radixOf_spelled (cs : List Char) :
    ∃ lead, cs = lead ++ (radixOf cs).2 ∧ ∀ c ∈ lead, isNumberChar c = true := by
  unfold radixOf
  split
  · rename_i c rest
    have h0 : isNumberChar '0' = true := by decide
    split
    · rename_i h
      simp only [Bool.or_eq_true, decide_eq_true_eq] at h
      refine ⟨['0', c], rfl, ?_⟩
      rcases h with rfl | rfl <;> simp [h0] <;> decide
    · split
      · rename_i h
        simp only [Bool.or_eq_true, decide_eq_true_eq] at h
        refine ⟨['0', c], rfl, ?_⟩
        rcases h with rfl | rfl <;> simp [h0] <;> decide
      · split
        · rename_i h
          simp only [Bool.or_eq_true, decide_eq_true_eq] at h
          refine ⟨['0', c], rfl, ?_⟩
          rcases h with rfl | rfl <;> simp [h0] <;> decide
        · exact ⟨[], rfl, by simp⟩
  · exact ⟨[], rfl, by simp⟩

theorem spanNumber_ne_nil {radix : Nat} {part : NumberPart} {c : Char} {cs : List Char}
    (h : Text.isDigit c = true) : (spanNumber radix part (c :: cs)).1 ≠ [] := by
  unfold spanNumber
  dsimp only
  split
  · simp
  · rename_i hnone
    simp only [h, if_true] at hnone
    repeat' split at hnone
    all_goals simp at hnone

/-- What a number literal consists of. -/
theorem readNumeral_spelled {c : Char} {cs : List Char} (h : Text.isDigit c = true) :
    ∃ text, c :: cs = text ++ (readNumeral (c :: cs)).2 ∧ text ≠ [] ∧
      ∀ d ∈ text, isNumberChar d = true := by
  obtain ⟨lead, hlead, hchars⟩ := radixOf_spelled (c :: cs)
  obtain ⟨hspan, hdigits⟩ := spanNumber_spelled (radixOf (c :: cs)).1
    (if (radixOf (c :: cs)).1 = 10 then .whole else .radix) (radixOf (c :: cs)).2
  refine ⟨_, hlead.trans ((congrArg (lead ++ ·) hspan).trans (List.append_assoc ..).symm), ?_, ?_⟩
  · intro hnil
    obtain ⟨rfl, hbody⟩ := List.append_eq_nil_iff.mp hnil
    rw [← show c :: cs = (radixOf (c :: cs)).2 from hlead] at hbody
    exact spanNumber_ne_nil h hbody
  · intro d hd
    rcases List.mem_append.mp hd with hd | hd
    · exact hchars d hd
    · exact hdigits d hd

theorem readPlace_spelled {c : Char} {cs : List Char} (h : Text.isDigit c = true) :
    ∃ text, c :: cs = text ++ (readPlace (c :: cs)).2 ∧ text ≠ [] ∧
      ∀ d ∈ text, isNumberChar d = true := by
  refine ⟨(c :: cs).takeWhile Text.isDigit, ?_, ?_, ?_⟩
  · exact List.takeWhile_append_dropWhile.symm
  · simp [h]
  · intro d hd
    exact isNumberChar_of_isDigit (List.all_eq_true.mp List.all_takeWhile d hd)

/-- **A token that the lexer reads is spelled as the scan expects**, and a word ends where the
word characters do. -/
theorem readToken_spelled {dotted : Bool} {cs : List Char} {front : FrontToken}
    (h : readToken dotted cs = .ok front) :
    ∃ text, cs = text ++ front.rest ∧ text ≠ [] ∧ SpelledBy front.token text ∧
      ∀ name, front.token = .ident name →
        ∀ c, front.rest.head? = some c → Text.isWordChar c = false := by
  unfold readToken at h
  split at h
  · simp at h
  · rename_i c rest
    split at h
    · -- Two characters
      rename_i t hpair
      cases h
      obtain ⟨d, hd, hpair⟩ := Option.bind_eq_some_iff.mp hpair
      cases rest with
      | nil => simp at hd
      | cons d' more =>
          cases hd
          refine ⟨[c, d], rfl, by simp, .pair hpair, ?_⟩
          rintro name rfl
          exact absurd hpair pairToken?_ne_ident
    · split at h
      · -- One character
        rename_i t change hchar
        cases h
        refine ⟨[c], rfl, by simp, .char hchar, ?_⟩
        rintro name rfl
        exact absurd hchar charToken?_ne_ident
      · split at h
        · -- A string literal
          rename_i hquote
          simp only [Bool.or_eq_true, decide_eq_true_eq] at hquote
          split at h
          · simp at h
          · rename_i inner more hsplit
            obtain ⟨hcs, hclosed⟩ := splitAtQuote?_spelled hquote hsplit
            split at h
            · simp at h
            · cases h
              refine ⟨c :: inner ++ [c], by simp [hcs], by simp, .str hquote hclosed, ?_⟩
              intro name hname
              simp at hname
        · split at h
          · -- A number
            rename_i hdigit
            have hnumber : ∃ text, c :: rest = text ++
                (if dotted then readPlace (c :: rest) else readNumeral (c :: rest)).2 ∧
                text ≠ [] ∧ ∀ d ∈ text, isNumberChar d = true := by
              split
              · exact readPlace_spelled hdigit
              · exact readNumeral_spelled hdigit
            split at h
            · rename_i n more hread
              cases h
              rw [hread] at hnumber
              obtain ⟨text, htext, hne, hchars⟩ := hnumber
              refine ⟨text, htext, hne, .number hchars, ?_⟩
              intro name hname
              cases n <;> simp [Token.ofNumeral] at hname
            · simp at h
          · split at h
            · -- A word
              rename_i hstart
              cases h
              refine ⟨c :: rest.takeWhile Text.isWordChar, ?_, by simp, .word hstart ?_, ?_⟩
              · simp
              · intro d hd
                exact List.all_eq_true.mp List.all_takeWhile d hd
              · intro name _ d hd
                have hnot := List.head?_dropWhile_not Text.isWordChar rest
                rw [hd] at hnot
                exact hnot
            · simp at h

theorem readToken_length {dotted : Bool} {cs : List Char} {front : FrontToken}
    (h : readToken dotted cs = .ok front) : front.rest.length < cs.length := by
  obtain ⟨text, htext, hne, -⟩ := readToken_spelled h
  have hpos := List.length_pos_iff.mpr hne
  rw [htext, List.length_append]
  omega

/-! ### One step of the scan -/

/-- A character that neither belongs to a word or a string literal nor is a blank. -/
def Symbolic (c : Char) : Prop :=
  Text.isWordChar c = false ∧ c ≠ '"' ∧ c ≠ '\'' ∧ Text.isTagBlank c = false

instance (c : Char) : Decidable (Symbolic c) :=
  inferInstanceAs (Decidable (_ ∧ _ ∧ _ ∧ _))

theorem charToken?_symbolic {c : Char} {t : Token} {change : Int}
    (h : charToken? c = some (t, change)) :
    Symbolic c ∧ (t.leadsOperand = true → c ≠ '.' ∧ c ≠ '|') := by
  unfold charToken? at h
  split at h <;> cases h <;> exact ⟨by decide, by decide⟩

theorem pairToken?_symbolic {c d : Char} {t : Token} (h : pairToken? c d = some t) :
    Symbolic c ∧ Symbolic d ∧ d ≠ '.' ∧ d ≠ '|' := by
  unfold pairToken? at h
  split at h <;> cases h <;> exact ⟨by decide, by decide, by decide⟩

theorem isWordStart_of_not_isWordChar {c : Char} (h : Text.isWordChar c = false) :
    Text.isWordStart c = false := by
  cases hs : Text.isWordStart c with
  | false => rfl
  | true => rw [Text.isWordChar_of_isWordStart hs] at h; exact h

section Scan

variable {before c : Char} {rest : List Char}

theorem namesIn_skip (hd : c ≠ '"') (hs : c ≠ '\'') (hw : Text.isWordStart c = false) :
    Calls.namesIn before (c :: rest) =
      Calls.namesIn (if Text.isTagBlank c then before else c) rest := by
  rw [Calls.namesIn]
  simp [hd, hs, hw]

theorem namesIn_symbolic (h : Symbolic c) :
    Calls.namesIn before (c :: rest) = Calls.namesIn c rest := by
  rw [namesIn_skip h.2.1 h.2.2.1 (isWordStart_of_not_isWordChar h.1), h.2.2.2]
  simp

theorem namesIn_blank (h : Text.isTagBlank c = true) :
    Calls.namesIn before (c :: rest) = Calls.namesIn before rest := by
  have hc : c ≠ '"' ∧ c ≠ '\'' ∧ Text.isWordStart c = false := by
    simp only [Text.isTagBlank, Bool.or_eq_true, decide_eq_true_eq] at h
    rcases h with (((rfl | rfl) | rfl) | rfl) | rfl <;> decide
  rw [namesIn_skip hc.1 hc.2.1 hc.2.2, h]
  simp

theorem namesIn_quote {q : Char} (hq : q = '\'' ∨ q = '"') :
    Calls.namesIn before (q :: rest) = Calls.namesIn q (Calls.afterQuote q rest) := by
  rw [Calls.namesIn]
  rcases hq with rfl | rfl <;> simp

theorem namesIn_wordStart (h : Text.isWordStart c = true) :
    Calls.namesIn before (c :: rest) =
      if Calls.opensCall (rest.dropWhile Text.isWordChar) && before ≠ '.' && before ≠ '|' then
        (c :: rest.takeWhile Text.isWordChar) ::
          Calls.namesIn 'a' (rest.dropWhile Text.isWordChar)
      else Calls.namesIn 'a' (rest.dropWhile Text.isWordChar) := by
  have hquote : (c = '"' || c = '\'') = false := by
    cases hq : (decide (c = '"') || decide (c = '\'')) with
    | false => rfl
    | true =>
        simp only [Bool.or_eq_true, decide_eq_true_eq] at hq
        rcases hq with rfl | rfl <;> exact absurd h (by decide)
  rw [Calls.namesIn, if_neg (by simp [hquote]), if_pos h]

theorem mem_namesIn_word (h : Text.isWordStart c = true) {name : List Char}
    (hname : name ∈ Calls.namesIn 'a' (rest.dropWhile Text.isWordChar)) :
    name ∈ Calls.namesIn before (c :: rest) := by
  rw [namesIn_wordStart h]
  split
  · exact List.mem_cons_of_mem _ hname
  · exact hname

theorem mem_namesIn_call (h : Text.isWordStart c = true) (hdot : before ≠ '.')
    (hpipe : before ≠ '|')
    (hopen : Calls.opensCall (rest.dropWhile Text.isWordChar) = true) :
    c :: rest.takeWhile Text.isWordChar ∈ Calls.namesIn before (c :: rest) := by
  rw [namesIn_wordStart h, if_pos (by simp [hopen, hdot, hpipe])]
  exact List.mem_cons_self

end Scan

/-- What follows a literal is part of the text that it stands in. -/
theorem mem_of_mem_afterQuote {q c : Char} {cs : List Char} (h : c ∈ Calls.afterQuote q cs) :
    c ∈ cs := by
  fun_induction Calls.afterQuote q cs with
  | case1 => exact h
  | case2 _ _ ih => exact List.mem_cons_of_mem _ (List.mem_cons_of_mem _ (ih h))
  | case3 => exact List.mem_cons_of_mem _ h
  | case4 _ _ _ _ ih => exact List.mem_cons_of_mem _ (ih h)

theorem namesIn_eq_nil {before : Char} {cs : List Char} (h : '(' ∉ cs) :
    Calls.namesIn before cs = [] := by
  fun_induction Calls.namesIn before cs with
  | case1 => rfl
  | case2 before c rest hquote hle ih =>
      exact ih fun hmem => h (List.mem_cons_of_mem _ (mem_of_mem_afterQuote hmem))
  | case3 before c rest hquote hword hle later hopen ih =>
      -- The parenthesis that opens the call stands behind the word.
      simp only [Calls.opensCall, Bool.and_eq_true, decide_eq_true_eq] at hopen
      have hdrop := (List.dropWhile_sublist _).mem (List.mem_of_mem_head? hopen.1.1)
      exact absurd (List.mem_cons_of_mem _ ((List.dropWhile_sublist _).mem hdrop)) h
  | case4 before c rest hquote hword hle later hopen ih =>
      exact ih fun hmem => h (List.mem_cons_of_mem _ ((List.dropWhile_sublist _).mem hmem))
  | case5 before c rest hquote hword ih => exact ih fun hmem => h (List.mem_cons_of_mem _ hmem)

theorem opensCall_append {c : Char} (hblank : Text.isTagBlank c = false) (hopen : c ≠ '(')
    (cs rest : List Char) : Calls.opensCall (cs ++ c :: rest) = Calls.opensCall cs := by
  rw [Calls.opensCall, Calls.opensCall, List.dropWhile_append]
  split
  · rename_i hempty
    simp [List.isEmpty_iff.mp hempty, hblank, hopen]
  · rename_i hne
    cases hdrop : cs.dropWhile Text.isTagBlank with
    | nil => simp [hdrop] at hne
    | cons d more => rfl

/-- A symbol at the end of a text adds no call to it. -/
theorem namesIn_concat {c : Char} (hc : Symbolic c) (hopen : c ≠ '(') (size : Nat) :
    ∀ {cs : List Char} {before : Char}, cs.length ≤ size →
      Calls.namesIn before (cs ++ [c]) = Calls.namesIn before cs := by
  have hnil : ∀ before, Calls.namesIn before [c] = Calls.namesIn before [] := by
    intro before
    rw [namesIn_symbolic hc]
    simp [Calls.namesIn]
  induction size with
  | zero =>
      intro cs before hsize
      rw [List.length_eq_zero_iff.mp (Nat.le_zero.mp hsize)]
      exact hnil before
  | succ size ih =>
      intro cs before hsize
      cases cs with
      | nil => exact hnil before
      | cons d rest =>
          simp only [List.length_cons] at hsize
          rw [List.cons_append]
          by_cases hquote : d = '\'' ∨ d = '"'
          · rw [namesIn_quote hquote, namesIn_quote hquote]
            rcases afterQuote_concat d c rest with hrest | ⟨hrest, hrest'⟩
            · rw [hrest]
              exact ih (Nat.le_trans (Calls.length_afterQuote_le d rest) (by omega))
            · rw [hrest, hrest']
          · by_cases hword : Text.isWordStart d = true
            · have hdrop : (rest ++ [c]).dropWhile Text.isWordChar =
                  rest.dropWhile Text.isWordChar ++ [c] := by
                rw [List.dropWhile_append]
                split
                · rename_i hempty
                  rw [List.isEmpty_iff.mp hempty]
                  simp [hc.1]
                · rfl
              have htake : (rest ++ [c]).takeWhile Text.isWordChar =
                  rest.takeWhile Text.isWordChar := by
                have hsplit := @List.takeWhile_append_dropWhile _ Text.isWordChar (rest ++ [c])
                rw [hdrop, ← List.append_assoc] at hsplit
                have hsplit' := List.append_cancel_right hsplit
                exact List.append_cancel_right
                  (hsplit'.trans List.takeWhile_append_dropWhile.symm)
              rw [namesIn_wordStart hword, namesIn_wordStart hword, hdrop, htake,
                opensCall_append hc.2.2.2 hopen,
                ih (Nat.le_trans (List.dropWhile_suffix _).length_le (by omega))]
            · simp only [not_or] at hquote
              rw [namesIn_skip hquote.2 hquote.1 (by simpa using hword),
                namesIn_skip hquote.2 hquote.1 (by simpa using hword)]
              exact ih (by omega)

theorem isNumberChar_ne_quote {c : Char} (h : isNumberChar c = true) : c ≠ '"' ∧ c ≠ '\'' := by
  constructor <;> rintro rfl <;> exact absurd h (by decide)

theorem dropWhile_of_head? {p : Char → Bool} {cs : List Char}
    (h : ∀ c, cs.head? = some c → p c = false) : cs.dropWhile p = cs := by
  cases cs with
  | nil => rfl
  | cons c cs => simp [h c rfl]

section Word

variable {w rest : List Char} (chars : ∀ d ∈ w, Text.isWordChar d = true)
  (hend : ∀ c, rest.head? = some c → Text.isWordChar c = false)
include chars hend

theorem dropWhile_word : (w ++ rest).dropWhile Text.isWordChar = rest := by
  rw [List.dropWhile_append_of_pos chars]
  exact dropWhile_of_head? hend

theorem takeWhile_word : (w ++ rest).takeWhile Text.isWordChar = w := by
  have hsplit := List.takeWhile_append_dropWhile (p := Text.isWordChar) (l := w ++ rest)
  rw [dropWhile_word chars hend] at hsplit
  exact List.append_cancel_right hsplit

end Word

/-! ### The scan keeps up with the lexer -/

/-- The lexer is at `cs`, and `ready` tells whether an operand may follow; the scan is at
`scan`, behind the character `before`.  They are level, or the scan has run ahead to the end
of a word. -/
inductive Follows : Bool → Char → List Char → List Char → Prop
  | level {ready : Bool} {before : Char} {cs : List Char}
      (seen : ready = true → before ≠ '.' ∧ before ≠ '|') : Follows ready before cs cs
  | ahead {cs : List Char} : Follows false 'a' (cs.dropWhile Text.isWordChar) cs

namespace Follows

variable {ready : Bool} {before c : Char} {scan cs text rest : List Char}

/-- They are level where no word goes on. -/
theorem scan_eq (h : Follows ready before scan (c :: cs)) (hc : Text.isWordChar c = false) :
    scan = c :: cs := by
  cases h with
  | level => rfl
  | ahead => simp [hc]

theorem blank (h : Follows ready before scan (c :: cs)) (hc : Text.isTagBlank c = true) :
    ∃ scan', Follows ready before scan' cs ∧
      ∀ name ∈ Calls.namesIn before scan', name ∈ Calls.namesIn before scan := by
  have hword : Text.isWordChar c = false := by
    simp only [Text.isTagBlank, Bool.or_eq_true, decide_eq_true_eq] at hc
    rcases hc with (((rfl | rfl) | rfl) | rfl) | rfl <;> decide
  refine ⟨cs, ?_, fun name hname => ?_⟩
  · cases h with
    | level seen => exact .level seen
    | ahead => exact .level (by simp)
  · rw [h.scan_eq hword, namesIn_blank hc]
    exact hname

/-- The scan gets through a number, perhaps further. -/
theorem through_number (rest : List Char) : ∀ (size : Nat) (text : List Char) (before : Char),
    text.length ≤ size → (∀ c ∈ text, isNumberChar c = true) →
    ∃ before' scan', Follows false before' scan' rest ∧
      ∀ name ∈ Calls.namesIn before' scan', name ∈ Calls.namesIn before (text ++ rest) := by
  intro size
  induction size with
  | zero =>
      intro text before hsize hchars
      have hnil : text = [] := List.length_eq_zero_iff.mp (by omega)
      subst hnil
      exact ⟨before, rest, .level (by simp), fun _ h => h⟩
  | succ size ih =>
      intro text before hsize hchars
      cases text with
      | nil => exact ⟨before, rest, .level (by simp), fun _ h => h⟩
      | cons c text =>
          simp only [List.length_cons] at hsize
          by_cases hword : Text.isWordStart c = true
          · -- The letters of the number are a word for the scan.
            have hdrop := @List.dropWhile_append _ Text.isWordChar text rest
            split at hdrop
            · refine ⟨'a', rest.dropWhile Text.isWordChar, .ahead, fun name hname => ?_⟩
              exact mem_namesIn_word hword (hdrop ▸ hname)
            · have hle : (text.dropWhile Text.isWordChar).length ≤ size :=
                Nat.le_trans (List.dropWhile_suffix _).length_le (by omega)
              obtain ⟨before', scan', hfollows, hnames⟩ :=
                ih (text.dropWhile Text.isWordChar) 'a' hle fun d hd =>
                  hchars d (List.mem_cons_of_mem _ ((List.dropWhile_sublist _).mem hd))
              refine ⟨before', scan', hfollows, fun name hname => ?_⟩
              exact mem_namesIn_word hword (hdrop ▸ hnames name hname)
          · have hquotes := isNumberChar_ne_quote (hchars c List.mem_cons_self)
            obtain ⟨before', scan', hfollows, hnames⟩ :=
              ih text (if Text.isTagBlank c then before else c) (by omega) fun d hd =>
                hchars d (List.mem_cons_of_mem _ hd)
            refine ⟨before', scan', hfollows, fun name hname => ?_⟩
            rw [List.cons_append, namesIn_skip hquotes.1 hquotes.2 (by simpa using hword)]
            exact hnames name hname

/-- The scan gets through a token. -/
theorem token {t : Token} (h : Follows ready before scan (text ++ rest))
    (ht : SpelledBy t text)
    (hend : ∀ name, t = .ident name → ∀ c, rest.head? = some c → Text.isWordChar c = false) :
    ∃ before' scan', Follows t.leadsOperand before' scan' rest ∧
      ∀ name ∈ Calls.namesIn before' scan', name ∈ Calls.namesIn before scan := by
  cases ht with
  | @pair c d t known =>
      obtain ⟨hc, hd, hlast⟩ := pairToken?_symbolic known
      have hscan : scan = c :: d :: rest := h.scan_eq hc.1
      refine ⟨d, rest, .level fun _ => hlast, fun name hname => ?_⟩
      rw [hscan, namesIn_symbolic hc, namesIn_symbolic hd]
      exact hname
  | @char c t change known =>
      obtain ⟨hc, hlast⟩ := charToken?_symbolic known
      have hscan : scan = c :: rest := h.scan_eq hc.1
      refine ⟨c, rest, .level hlast, fun name hname => ?_⟩
      rw [hscan, namesIn_symbolic hc]
      exact hname
  | @str q inner s quote closed =>
      have hq : Text.isWordChar q = false := by rcases quote with rfl | rfl <;> decide
      have hscan : scan = q :: (inner ++ q :: rest) := by
        simpa using h.scan_eq (by simpa using hq)
      refine ⟨q, rest, .level fun _ => ?_, fun name hname => ?_⟩
      · rcases quote with rfl | rfl <;> decide
      · rw [hscan, namesIn_quote quote, closed]
        exact hname
  | @number n text chars =>
      have hready : (Token.ofNumeral n).leadsOperand = false := by cases n <;> rfl
      rw [hready]
      cases h with
      | level => exact through_number rest text.length text before (Nat.le_refl _) chars
      | ahead =>
          have hdrop := @List.dropWhile_append _ Text.isWordChar text rest
          split at hdrop
          · exact ⟨'a', _, .ahead, fun name hname => hdrop ▸ hname⟩
          · obtain ⟨before', scan', hfollows, hnames⟩ :=
              through_number rest _ (text.dropWhile Text.isWordChar) 'a' (Nat.le_refl _)
                fun d hd => chars d ((List.dropWhile_sublist _).mem hd)
            exact ⟨before', scan', hfollows, fun name hname => hdrop ▸ hnames name hname⟩
  | @word c w start chars =>
      have hdrop := dropWhile_word chars (hend _ rfl)
      refine ⟨'a', rest, .level fun _ => by decide, fun name hname => ?_⟩
      cases h with
      | level =>
          refine mem_namesIn_word start ?_
          show name ∈ Calls.namesIn 'a' ((w ++ rest).dropWhile Text.isWordChar)
          rw [hdrop]
          exact hname
      | ahead =>
          rw [List.cons_append, List.dropWhile_cons, if_pos (Text.isWordChar_of_isWordStart start),
            hdrop]
          exact hname

/-- A word that may be an operand is found if an opening parenthesis comes next. -/
theorem call {name : String} (h : Follows true before scan (text ++ rest))
    (ht : SpelledBy (.ident name) text)
    (hend : ∀ c, rest.head? = some c → Text.isWordChar c = false)
    (hopen : Calls.opensCall rest = true) : name.toList ∈ Calls.namesIn before scan := by
  obtain ⟨c, w, rfl, start, chars, rfl⟩ := ht.word_of_ident
  cases h with
  | level seen =>
      obtain ⟨hdot, hpipe⟩ := seen rfl
      have hfound := mem_namesIn_call start hdot hpipe ((dropWhile_word chars hend).symm ▸ hopen)
      rw [takeWhile_word chars hend] at hfound
      rw [String.toList_ofList]
      exact hfound

end Follows

end Folio.Template
