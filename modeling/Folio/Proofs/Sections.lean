/-
The sections of a template, and where the scan for called names finds them.

The lexer cuts a source into text, tags, comments and raw sections; `sections` lists all of
them but the text.  The scan looks for tags in a cruder way: a tag begins wherever its opening
delimiter is seen and ends where its closing delimiter is seen next.  A section is clean
(`Section.clean`) if that makes no difference: no tag has its closing delimiter inside, no
comment and no raw section an opening one.  Where all sections are clean every name that the
tokens call is one that the scan finds (`scanned_of_calledIn`).
-/
import Folio.Proofs.TagCalls

namespace Folio.Template

/-! ### Clean sections -/

/-- Whether `b` follows an `a` somewhere. -/
def hasPair (a b : Char) : List Char → Bool
  | [] => false
  | c :: rest => (c = a && rest.head? = some b) || hasPair a b rest

/-- Whether the scan takes something for the beginning of a tag. -/
def opensTag (cs : List Char) : Bool := hasPair '\x7b' '\x7b' cs || hasPair '\x7b' '%' cs

/-- A part of a source that is no text, by what stands inside of its delimiters. -/
inductive Section where
  | tag (kind : TagKind) (body : List Char)
  | comment (body : List Char)
  | raw (body : List Char)

/-- Whether the scan for called names takes a section for what it is.  With the delimiter that
closes a raw section its last character may seem to open a tag. -/
def Section.clean : Section → Bool
  | .tag kind body => !hasPair kind.closing.1 kind.closing.2 body
  | .comment body => !opensTag body
  | .raw body => !opensTag (body ++ ['\x7b'])

/-- The section whose opening delimiter and sign have been read, and what follows it. -/
def cutSection? (kind : TagKind) (inner : List Char) : Option (Section × List Char) :=
  if kind = .comment then
    (splitAtPair? '#' '\x7d' inner).map fun (body, rest) => (.comment body, rest)
  else
    match if kind = .statement then bareTag? "raw" inner else none with
    | some (_, after) =>
      (splitAtEndRaw? after).map fun (body, _, _, rest) => (.raw body, rest)
    | none =>
      (afterTag? (inner.length + 1) kind 0 false inner).map fun rest =>
        (.tag kind (inner.take (inner.length - rest.length - 2)), rest)

/-- The sections of a text outside of tags, up to the first one that is not closed. -/
def sections : Nat → List Char → List Section
  | 0, _ => []
  | fuel + 1, cs =>
    match (splitAtTag cs).2 with
    | none => []
    | some (kind, more) =>
      match cutSection? kind (takeSign more).2 with
      | some (s, rest) => s :: sections fuel rest
      | none => []

/-- Whether all sections of a source are clean. -/
def cleanlyCut (source : String) : Bool :=
  let cs := withoutFinalBreak source.toList
  (sections (cs.length + 1) cs).all Section.clean

section Pairs

variable {a b c d : Char} {body rest : List Char}

@[simp] theorem hasPair_cons :
    hasPair a b (c :: rest) = ((c = a && rest.head? = some b) || hasPair a b rest) := rfl

theorem hasPair_concat :
    hasPair a b (body ++ [c]) = (hasPair a b body || (body.getLast? = some a && c = b)) := by
  induction body with
  | nil => simp [hasPair]
  | cons d body ih =>
      rw [List.cons_append, hasPair_cons, ih, hasPair_cons]
      cases body with
      | nil => simp [hasPair]
      | cons e body => simp [Bool.or_assoc, List.getLast?_cons_cons]

theorem hasPair_cons_of_ne (h : c ≠ a) : hasPair a b (c :: rest) = hasPair a b rest := by
  simp [h]

theorem head?_append_cons : (body ++ c :: rest).head? = (body ++ [c]).head? := by
  cases body <;> rfl

theorem splitBeforePair_clean (h : hasPair a b (body ++ [a]) = false) :
    Calls.splitBeforePair a b (body ++ a :: b :: rest) = (body, a :: b :: rest) := by
  induction body with
  | nil => simp [Calls.splitBeforePair]
  | cons c body ih =>
      simp only [List.cons_append, hasPair_cons, Bool.or_eq_false_iff] at h
      rw [List.cons_append, Calls.splitBeforePair, if_neg, ih h.2]
      rw [head?_append_cons]
      simpa using h.1

/-! ### One step of the search for tags -/

theorem tagBodies_skip
    (h : c = '\x7b' → ∀ d, rest.head? = some d → Calls.closingPair? d = none) :
    Calls.tagBodies (c :: rest) = Calls.tagBodies rest := by
  cases rest with
  | nil => simp [Calls.tagBodies]
  | cons d rest =>
      rw [Calls.tagBodies]
      by_cases hc : c = '\x7b'
      · rw [if_pos hc, h hc d rfl]
      · rw [if_neg hc]

theorem closingPair?_eq_none (h₁ : d ≠ '\x7b') (h₂ : d ≠ '%') : Calls.closingPair? d = none := by
  unfold Calls.closingPair?
  split
  · exact absurd rfl h₁
  · exact absurd rfl h₂
  · rfl

/-- The search goes on behind what opens no tag. -/
theorem tagBodies_append (h : opensTag (body ++ [d]) = false) :
    Calls.tagBodies (body ++ d :: rest) = Calls.tagBodies (d :: rest) := by
  induction body with
  | nil => rfl
  | cons c body ih =>
      simp only [opensTag, List.cons_append, hasPair_cons, Bool.or_eq_false_iff] at h
      rw [List.cons_append, tagBodies_skip, ih (by simp [opensTag, h.1.2, h.2.2])]
      rintro rfl e he
      rw [head?_append_cons] at he
      refine closingPair?_eq_none ?_ ?_
      · rintro rfl
        simp [he] at h
      · rintro rfl
        simp [he] at h

end Pairs

/-! ### Where sections begin and end -/

/-- The second character of an opening delimiter. -/
def TagKind.mark : TagKind → Char
  | .output => '\x7b'
  | .statement => '%'
  | .comment => '#'

section Cut

variable {kind : TagKind} {a b : Char} {cs more body rest : List Char}

/-- Before the opening delimiter of a section the scan finds no tag. -/
theorem splitAtTag_spec (tail : List Char) (h : (splitAtTag cs).2 = some (kind, more)) :
    ∃ lead, cs = lead ++ '\x7b' :: kind.mark :: more ∧
      Calls.tagBodies (cs ++ tail) = Calls.tagBodies ('\x7b' :: kind.mark :: (more ++ tail)) := by
  fun_induction splitAtTag cs with
  | case1 => simp at h
  | case2 => cases h; exact ⟨[], rfl, rfl⟩
  | case3 => cases h; exact ⟨[], rfl, rfl⟩
  | case4 => cases h; exact ⟨[], rfl, rfl⟩
  | case5 c rest h₁ h₂ h₃ lead tag htag ih =>
      rw [htag] at ih
      obtain ⟨lead', hlead, hscan⟩ := ih h
      refine ⟨c :: lead', by rw [hlead]; rfl, ?_⟩
      rw [List.cons_append, tagBodies_skip, hscan]
      rintro rfl d hd
      cases rest with
      | nil => simp [splitAtTag] at htag; simp [← htag.2] at h
      | cons e rest =>
          cases hd
          refine closingPair?_eq_none ?_ ?_
          · rintro rfl
            exact h₁ _ rfl rfl
          · rintro rfl
            exact h₂ _ rfl rfl

theorem splitAtTag_dropped (cs : List Char) :
    (splitAtTag (cs.drop (cs.takeWhile Text.isBlank).length)).2 = (splitAtTag cs).2 := by
  induction cs with
  | nil => rfl
  | cons c rest ih =>
      by_cases hc : Text.isBlank c = true
      · have hne : c ≠ '\x7b' := by
          rintro rfl
          exact absurd hc (by decide)
        rw [List.takeWhile_cons, if_pos hc, List.length_cons, List.drop_succ_cons, ih]
        rw [splitAtTag]
        · exact fun _ he => absurd he hne
        · exact fun _ he => absurd he hne
        · exact fun _ he => absurd he hne
      · rw [List.takeWhile_cons, if_neg hc]
        rfl

theorem splitAtPair?_eq (h : splitAtPair? a b cs = some (body, rest)) :
    cs = body ++ a :: b :: rest := by
  fun_induction splitAtPair? a b cs generalizing body with
  | case1 => simp at h
  | case2 c d after heq =>
      obtain ⟨rfl, rfl⟩ := heq
      cases h
      rfl
  | case3 c d after hne ih =>
      simp only [Option.map_eq_some_iff] at h
      obtain ⟨⟨lead, after'⟩, hsplit, heq⟩ := h
      cases heq
      rw [ih hsplit]
      rfl
  | case4 => simp at h

/-- The text holds neither a percent sign nor an opening parenthesis. -/
def Quiet (cs : List Char) : Prop := '%' ∉ cs ∧ '(' ∉ cs

instance (cs : List Char) : Decidable (Quiet cs) :=
  inferInstanceAs (Decidable (_ ∧ _))

theorem Quiet.append {as : List Char} (h : Quiet as) (h' : Quiet cs) : Quiet (as ++ cs) := by
  simp only [Quiet, List.mem_append, not_or]
  exact ⟨⟨h.1, h'.1⟩, h.2, h'.2⟩

theorem quiet_sign {sign : List Char} (h : sign = [] ∨ sign = ['-'] ∨ sign = ['+']) :
    Quiet sign := by
  rcases h with rfl | rfl | rfl <;> decide

theorem quiet_blanks (cs : List Char) : Quiet (cs.takeWhile Text.isTagBlank) := by
  constructor <;> intro hmem <;>
    exact absurd (List.all_eq_true.mp List.all_takeWhile _ hmem) (by decide)

theorem bareTag?_eq {word : String} {sign : Sign} (h : bareTag? word cs = some (sign, rest))
    (hword : Quiet word.toList) :
    ∃ lead, cs = lead ++ '%' :: '\x7d' :: rest ∧ Quiet lead := by
  simp only [bareTag?, Option.bind_eq_bind, Option.bind_eq_some_iff, Option.pure_def,
    Option.some.injEq, Prod.mk.injEq] at h
  obtain ⟨more, hmore, after, hafter, -, rfl⟩ := h
  obtain ⟨lead, hlead, hsign⟩ := takeSign_append (more.dropWhile Text.isTagBlank)
  have hcs := (List.takeWhile_append_dropWhile (p := Text.isTagBlank) (l := cs)).symm
  have hmore' := (List.takeWhile_append_dropWhile (p := Text.isTagBlank) (l := more)).symm
  rw [afterStart?_eq hafter] at hlead
  rw [afterStart?_eq hmore, hmore', hlead] at hcs
  refine ⟨cs.takeWhile Text.isTagBlank ++ word.toList ++ more.takeWhile Text.isTagBlank ++ lead,
    by simpa using hcs, ?_⟩
  exact (((quiet_blanks _).append hword).append (quiet_blanks _)).append (quiet_sign hsign)

/-- A raw section ends with a tag that is quiet. -/
theorem splitAtEndRaw?_eq {before behind : Sign}
    (h : splitAtEndRaw? cs = some (body, before, behind, rest)) :
    ∃ lead, cs = body ++ '\x7b' :: '%' :: (lead ++ '%' :: '\x7d' :: rest) ∧ Quiet lead := by
  induction cs generalizing body with
  | nil => simp [splitAtEndRaw?] at h
  | cons c more ih =>
      unfold splitAtEndRaw? at h
      dsimp only at h
      split at h
      · -- The closing tag
        rename_i sign after rest' hclosing
        cases h
        split at hclosing
        · rename_i inner
          simp only [Option.map_eq_some_iff] at hclosing
          obtain ⟨⟨after', rest''⟩, hbare, heq⟩ := hclosing
          cases heq
          obtain ⟨lead, hlead, hsign⟩ := takeSign_append inner
          obtain ⟨word, hword, hnot⟩ := bareTag?_eq hbare (by decide)
          exact ⟨lead ++ word, by rw [hlead, hword]; simp, (quiet_sign hsign).append hnot⟩
        · simp at hclosing
      · simp only [Option.map_eq_some_iff] at h
        obtain ⟨⟨lead, more'⟩, hmore, heq⟩ := h
        cases heq
        obtain ⟨word, hword, hnot⟩ := ih hmore
        exact ⟨word, by rw [hword]; rfl, hnot⟩

end Cut

/-! ### What the scan finds in a section -/

/-- The names that the scan finds in a text, in order. -/
def scanned (cs : List Char) : List (List Char) := (Calls.tagBodies cs).flatMap (Calls.namesIn ' ')

section Scanned

variable {kind : TagKind} {a b c : Char} {sign body rest inner more : List Char}

theorem scanned_skip (h : c ≠ '\x7b') : scanned (c :: rest) = scanned rest := by
  rw [scanned, tagBodies_skip fun hc => absurd hc h]
  rfl

theorem scanned_append (h : opensTag (body ++ [c]) = false) :
    scanned (body ++ c :: rest) = scanned (c :: rest) := by
  rw [scanned, tagBodies_append h]
  rfl

theorem scanned_sign (hsign : sign = [] ∨ sign = ['-'] ∨ sign = ['+']) :
    scanned (sign ++ rest) = scanned rest := by
  rcases hsign with rfl | rfl | rfl
  · rfl
  · exact scanned_skip (by decide)
  · exact scanned_skip (by decide)

theorem scanned_closing (hkind : kind ≠ .comment) :
    scanned (kind.closing.1 :: kind.closing.2 :: rest) = scanned rest := by
  have hclosing : kind.closing.1 ≠ '\x7b' ∧ kind.closing.2 ≠ '\x7b' := by
    cases kind <;> decide
  rw [scanned_skip hclosing.1, scanned_skip hclosing.2]

/-- A tag is scanned up to the first closing delimiter. -/
theorem scanned_tag_exact (hkind : kind ≠ .comment)
    (h : hasPair kind.closing.1 kind.closing.2 (body ++ [kind.closing.1]) = false) :
    scanned ('\x7b' :: kind.mark :: (body ++ kind.closing.1 :: kind.closing.2 :: rest)) =
      Calls.namesIn ' ' body ++ scanned rest := by
  have hpair : Calls.closingPair? kind.mark = some kind.closing := by
    cases kind <;> first | rfl | exact absurd rfl hkind
  rw [← @scanned_closing kind rest hkind, scanned, Calls.tagBodies, if_pos rfl, hpair]
  dsimp only
  rw [splitBeforePair_clean h]
  rfl

/-- A tag that is clean is scanned as it stands. -/
theorem scanned_tag (hkind : kind ≠ .comment)
    (h : hasPair kind.closing.1 kind.closing.2 body = false) :
    scanned ('\x7b' :: kind.mark :: (body ++ kind.closing.1 :: kind.closing.2 :: rest)) =
      Calls.namesIn ' ' body ++ scanned rest := by
  cases hend : hasPair kind.closing.1 kind.closing.2 (body ++ [kind.closing.1]) with
  | false => exact scanned_tag_exact hkind hend
  | true =>
      -- The tag ends with a brace, and the scan leaves it out.
      rw [hasPair_concat, h] at hend
      simp only [Bool.false_or, Bool.and_eq_true, decide_eq_true_eq] at hend
      obtain ⟨hlast, heq⟩ := hend
      obtain ⟨front, rfl⟩ := List.getLast?_eq_some_iff.mp hlast
      have hbrace : Symbolic kind.closing.1 ∧ kind.closing.1 ≠ '(' ∧ kind.closing.1 ≠ '\x7b' := by
        cases kind <;> decide
      have hexact := @scanned_tag_exact kind front (kind.closing.1 :: rest) hkind h
      rw [← heq] at hexact ⊢
      rw [scanned_skip hbrace.2.2] at hexact
      rw [namesIn_concat hbrace.1 hbrace.2.1 front.length (Nat.le_refl _), ← hexact]
      simp

theorem hasPair_of_not_mem (h : a ∉ body) : hasPair a b body = false := by
  induction body with
  | nil => rfl
  | cons c body ih =>
      simp only [List.mem_cons, not_or] at h
      rw [hasPair_cons_of_ne (Ne.symm h.1), ih h.2]

/-- Nothing is found in a tag that is quiet, and behind it the scan is where it should be. -/
theorem scanned_quiet {word : List Char} (h : Quiet word) :
    scanned ('\x7b' :: '%' :: (word ++ '%' :: '\x7d' :: rest)) = scanned rest := by
  have hscan : scanned ('\x7b' :: '%' :: (word ++ '%' :: '\x7d' :: rest)) =
      Calls.namesIn ' ' word ++ scanned rest :=
    @scanned_tag .statement _ _ (by decide) (hasPair_of_not_mem h.1)
  rw [hscan, namesIn_eq_nil h.2, List.nil_append]

theorem scanned_comment (hsign : sign = [] ∨ sign = ['-'] ∨ sign = ['+'])
    (h : (Section.comment body).clean = true) :
    scanned ('\x7b' :: '#' :: (sign ++ (body ++ '#' :: '\x7d' :: rest))) = scanned rest := by
  have hopens : opensTag (body ++ ['#']) = false := by
    simpa [Section.clean, opensTag, hasPair_concat] using h
  have hmark : scanned ('\x7b' :: '#' :: (sign ++ (body ++ '#' :: '\x7d' :: rest))) =
      scanned ('#' :: (sign ++ (body ++ '#' :: '\x7d' :: rest))) := by
    rw [scanned, tagBodies_skip]
    · rfl
    · rintro - d hd
      cases hd
      rfl
  rw [hmark, scanned_skip (by decide), scanned_sign hsign, scanned_append hopens,
    scanned_skip (by decide), scanned_skip (by decide)]

theorem scanned_raw {word word' : List Char} (h : (Section.raw body).clean = true)
    (hword : Quiet word) (hword' : Quiet word') :
    scanned ('\x7b' :: '%' :: (word ++ '%' :: '\x7d' ::
      (body ++ '\x7b' :: '%' :: (word' ++ '%' :: '\x7d' :: rest)))) = scanned rest := by
  have hopens : opensTag (body ++ ['\x7b']) = false := by simpa [Section.clean] using h
  rw [scanned_quiet hword, scanned_append hopens, scanned_quiet hword']

end Scanned

/-! ### The lexer's way through the sections -/

/-- The tokens from the opening of a section on, by what follows the text before it. -/
inductive Enters (fuel : Nat) : Option (TagKind × List Char) → List Token → Prop
  | output {more : List Char} (line : Nat) :
      Enters fuel (some (.output, more))
        (.outputStart :: (lexTag fuel .output 0 false line (takeSign more).2).kinds)
  | statement {more : List Char} (line : Nat) (word : bareTag? "raw" (takeSign more).2 = none) :
      Enters fuel (some (.statement, more))
        (.tagStart :: (lexTag fuel .statement 0 false line (takeSign more).2).kinds)
  | raw {more after body rest : List Char} {sign before behind : Sign} (s : String)
      (drop : Bool) (line : Nat) (word : bareTag? "raw" (takeSign more).2 = some (sign, after))
      (closed : splitAtEndRaw? after = some (body, before, behind, rest)) :
      Enters fuel (some (.statement, more)) (.text s :: (lexText fuel drop line rest).kinds)
  | comment {more body rest : List Char} (drop : Bool) (line : Nat)
      (closed : splitAtPair? '#' '\x7d' (takeSign more).2 = some (body, rest)) :
      Enters fuel (some (.comment, more)) (lexText fuel drop line rest).kinds
  /-- There is no section, or none that is closed. -/
  | nothing {tag : Option (TagKind × List Char)}
      (unclosed : ∀ kind more, tag = some (kind, more) →
        cutSection? kind (takeSign more).2 = none) :
      Enters fuel tag []

/-- The tokens of a text are the text itself and those of the section behind it. -/
theorem lexText_enters (fuel : Nat) (drop : Bool) (line : Nat) (cs : List Char) :
    ∃ texts toks, (lexText (fuel + 1) drop line cs).kinds = texts ++ toks ∧
      (texts = [] ∨ ∃ s, texts = [.text s]) ∧ Enters fuel (splitAtTag cs).2 toks := by
  have hdropped : (splitAtTag (cs.drop (if drop then cs.takeWhile Text.isBlank else []).length)).2 =
      (splitAtTag cs).2 := by
    cases drop with
    | false => rfl
    | true => exact splitAtTag_dropped cs
  have hlead : ∀ (c : Prop) [Decidable c] (s : String) (line : Nat) (rest : Tokens),
      Enters fuel (splitAtTag cs).2 rest.kinds →
      ∃ texts toks, (if c then rest else Tokens.cons (.text s) line rest).kinds = texts ++ toks ∧
        (texts = [] ∨ ∃ s, texts = [.text s]) ∧ Enters fuel (splitAtTag cs).2 toks := by
    intro c _ s line rest h
    by_cases hc : c
    · exact ⟨[], _, by rw [if_pos hc]; rfl, Or.inl rfl, h⟩
    · exact ⟨[.text s], _, by rw [if_neg hc]; rfl, Or.inr ⟨s, rfl⟩, h⟩
  unfold lexText
  dsimp only
  generalize splitAtTag (cs.drop (if drop then cs.takeWhile Text.isBlank else []).length) = p
    at hdropped ⊢
  obtain ⟨lead, tag⟩ := p
  dsimp only at hdropped ⊢
  refine hlead _ _ _ _ ?_
  rw [← hdropped]
  split
  · exact .nothing (by simp)
  · exact .output _
  · dsimp only [Option.map_some, Option.getD_some]
    split
    · rename_i hword
      split
      · rename_i hclosed
        exact .raw _ _ _ hword hclosed
      · rename_i hopen
        refine .nothing fun kind more htag => ?_
        cases htag
        simp [cutSection?, hword, hopen]
    · rename_i hword
      exact .statement _ hword
  · dsimp only [Option.map_some, Option.getD_some]
    split
    · rename_i hclosed
      exact .comment _ _ hclosed
    · rename_i hopen
      refine .nothing fun kind more htag => ?_
      cases htag
      simp [cutSection?, hopen]

/-! ### Calls are found -/

/-- The text is lexed to its end, and its tokens call the name. -/
def CalledIn (name : String) (cs : List Char) : Prop :=
  ∃ fuel drop line, Outside (lexText fuel drop line cs).kinds ∧
    CallsIn name true (lexText fuel drop line cs).kinds

/-- The scan finds the name in the section that has just been opened, or the name is called
later and the scan comes there. -/
def Passes (name : String) (kind : TagKind) (more rest : List Char) : Prop :=
  ∀ tail, name.toList ∈ scanned ('\x7b' :: kind.mark :: (more ++ tail)) ∨
    CalledIn name rest ∧
      ∀ word ∈ scanned (rest ++ tail), word ∈ scanned ('\x7b' :: kind.mark :: (more ++ tail))

section Found

variable {name : String} {kind : TagKind} {fuel : Nat} {toks : List Token}
  {sign body cs inner more rest : List Char}

theorem CallsIn.of_cons {t : Token} (hname : ∀ word, t ≠ .ident word)
    (h : CallsIn name true (t :: toks)) (hready : t.leadsOperand = true) :
    CallsIn name true toks := by
  cases h with
  | here => exact absurd rfl (hname name)
  | there later => exact hready ▸ later

theorem Outside.of_append {before : List Token} (h : Outside (before ++ toks)) : Outside toks := by
  intro t ht
  refine h t ?_
  rw [List.getLast?_append, ht]
  rfl

theorem outside_nil_of_all {t : Token} (h : ∀ u ∈ t :: toks, u.endsSection = false) :
    ¬ Outside (t :: toks) := by
  intro hout
  have hlast := List.getLast_mem (List.cons_ne_nil t toks)
  have hends := hout _ (List.getLast?_eq_some_getLast (List.cons_ne_nil t toks))
  rw [h _ hlast] at hends
  cases hends

theorem namesIn_sign (hsign : sign = [] ∨ sign = ['-'] ∨ sign = ['+']) :
    ∃ before, before ≠ '.' ∧ before ≠ '|' ∧
      Calls.namesIn ' ' (sign ++ body) = Calls.namesIn before body := by
  rcases hsign with rfl | rfl | rfl
  · exact ⟨' ', by decide, by decide, rfl⟩
  · exact ⟨'-', by decide, by decide, namesIn_symbolic (by decide)⟩
  · exact ⟨'+', by decide, by decide, namesIn_symbolic (by decide)⟩

theorem hasPair_sign {a b : Char} (hsign : sign = [] ∨ sign = ['-'] ∨ sign = ['+'])
    (h₁ : a ≠ '-') (h₂ : a ≠ '+') : hasPair a b (sign ++ body) = hasPair a b body := by
  rcases hsign with rfl | rfl | rfl
  · rfl
  · exact hasPair_cons_of_ne (Ne.symm h₁)
  · exact hasPair_cons_of_ne (Ne.symm h₂)

/-- A tag that is clean is scanned as it stands, with the sign at its start. -/
theorem scanned_signed_tag {tail : List Char} (hkind : kind ≠ .comment)
    (hsign : sign = [] ∨ sign = ['-'] ∨ sign = ['+'])
    (hmore : more = sign ++ (body ++ kind.closing.1 :: kind.closing.2 :: rest))
    (hclean : (Section.tag kind body).clean = true) :
    scanned ('\x7b' :: kind.mark :: (more ++ tail)) =
      Calls.namesIn ' ' (sign ++ body) ++ scanned (rest ++ tail) := by
  have hpair : hasPair kind.closing.1 kind.closing.2 (sign ++ body) = false := by
    rw [hasPair_sign hsign (by cases kind <;> decide) (by cases kind <;> decide)]
    simpa [Section.clean] using hclean
  rw [hmore, ← scanned_tag hkind hpair]
  simp

/-- A tag is closed, and if it is clean the scan passes it. -/
theorem passes_tag {t : Token} {line : Nat} (hkind : kind ≠ .comment)
    (ht : t.endsSection = false) (hready : t.leadsOperand = true)
    (hname : ∀ word, t ≠ .ident word)
    (hout : Outside (t :: (lexTag fuel kind 0 false line (takeSign more).2).kinds))
    (hcall : CallsIn name true (t :: (lexTag fuel kind 0 false line (takeSign more).2).kinds)) :
    ∃ body rest, (takeSign more).2 = body ++ kind.closing.1 :: kind.closing.2 :: rest ∧
      afterTag? ((takeSign more).2.length + 1) kind 0 false (takeSign more).2 = some rest ∧
      ((Section.tag kind body).clean = true → Passes name kind more rest) := by
  obtain ⟨sign, hmore, hsign⟩ := takeSign_append more
  generalize hinner : (takeSign more).2 = inner at *
  cases hafter : afterTag? (inner.length + 1) kind 0 false inner with
  | none =>
      refine absurd hout (outside_nil_of_all fun u hu => ?_)
      rcases List.mem_cons.mp hu with rfl | hu
      · exact ht
      · exact lexTag_open _ (Nat.lt_succ_self _) hafter u hu
  | some rest =>
      obtain ⟨body, hbody⟩ := afterTag?_append _ hafter
      refine ⟨body, rest, hbody, rfl, fun hclean tail => ?_⟩
      have hscan := @scanned_signed_tag kind sign body more rest tail hkind hsign
        (by rw [hmore, hbody]) hclean
      obtain ⟨before, hdot, hpipe, hnames⟩ := @namesIn_sign sign body hsign
      rw [hbody] at hafter hcall hout
      obtain ⟨f, drop, line', inside, heq, hfound⟩ :=
        @lexTag_closed name kind rest fuel _ line _ _ true _ _ _ hafter
          (.level fun _ => ⟨hdot, hpipe⟩)
      rw [heq] at hcall hout
      rw [hscan]
      rcases hfound (hcall.of_cons hname hready) with hin | hlater
      · exact Or.inl (List.mem_append_left _ (hnames ▸ hin))
      · refine Or.inr ⟨⟨f, drop, line', ?_, hlater⟩, fun w hw => List.mem_append_right _ hw⟩
        exact @Outside.of_append _ (t :: inside) hout

theorem cutSection?_tag (hkind : kind ≠ .comment)
    (hword : (if kind = .statement then bareTag? "raw" inner else none) = none)
    (hinner : inner = body ++ kind.closing.1 :: kind.closing.2 :: rest)
    (hafter : afterTag? (inner.length + 1) kind 0 false inner = some rest) :
    cutSection? kind inner = some (.tag kind body, rest) := by
  have hbody : inner.take (inner.length - rest.length - 2) = body := by
    have hlength : inner.length - rest.length - 2 = body.length := by
      rw [hinner]
      simp only [List.length_append, List.length_cons]
      omega
    rw [hlength, hinner, List.take_left]
  rw [cutSection?, if_neg hkind, hword]
  simp [hafter, hbody]

theorem scanned_signed_comment (tail : List Char)
    (closed : splitAtPair? '#' '\x7d' (takeSign more).2 = some (body, rest))
    (hclean : (Section.comment body).clean = true) :
    scanned ('\x7b' :: '#' :: (more ++ tail)) = scanned (rest ++ tail) := by
  obtain ⟨sign, hmore, hsign⟩ := takeSign_append more
  rw [hmore, splitAtPair?_eq closed]
  simpa using @scanned_comment sign body (rest ++ tail) hsign hclean

theorem scanned_signed_raw {after : List Char} {sign before behind : Sign} (tail : List Char)
    (word : bareTag? "raw" (takeSign more).2 = some (sign, after))
    (closed : splitAtEndRaw? after = some (body, before, behind, rest))
    (hclean : (Section.raw body).clean = true) :
    scanned ('\x7b' :: '%' :: (more ++ tail)) = scanned (rest ++ tail) := by
  obtain ⟨lead, hlead, hquiet⟩ := bareTag?_eq word (by decide)
  obtain ⟨lead', hlead', hquiet'⟩ := splitAtEndRaw?_eq closed
  obtain ⟨sign', hmore, hsign⟩ := takeSign_append more
  rw [hmore, hlead, hlead']
  simpa using @scanned_raw body (rest ++ tail) _ _ hclean ((quiet_sign hsign).append hquiet) hquiet'

/--
**The first section of a text with a call in it.**

It is closed, the text behind it is shorter, and if the section is clean the scan passes it.
-/
theorem CalledIn.section (h : CalledIn name cs) :
    ∃ kind more s rest, (splitAtTag cs).2 = some (kind, more) ∧
      cutSection? kind (takeSign more).2 = some (s, rest) ∧ rest.length < cs.length ∧
      (s.clean = true → Passes name kind more rest) := by
  obtain ⟨fuel, drop, line, hout, hcall⟩ := h
  cases fuel with
  | zero =>
      rw [lexText] at hcall
      exact absurd hcall CallsIn.not_nil
  | succ fuel =>
      obtain ⟨texts, toks, heq, htexts, henters⟩ := lexText_enters fuel drop line cs
      rw [heq] at hout hcall
      have hcall' : CallsIn name true toks := by
        rcases htexts with rfl | ⟨s, rfl⟩
        · exact hcall
        · exact hcall.of_cons (by simp) rfl
      have hout' : Outside toks := hout.of_append
      have hsize : ∀ {kind : TagKind} {more front rest : List Char} {a b : Char},
          (splitAtTag cs).2 = some (kind, more) → (takeSign more).2 = front ++ a :: b :: rest →
          rest.length < cs.length := by
        intro kind more front rest a b htag hinner
        obtain ⟨lead, hcs, -⟩ := splitAtTag_spec [] htag
        obtain ⟨sign, hmore, -⟩ := takeSign_append more
        rw [hcs, hmore, hinner]
        simp only [List.length_append, List.length_cons]
        omega
      generalize (splitAtTag cs).2 = tag at henters hsize
      cases henters with
      | output line' =>
          obtain ⟨body, rest, hbody, hafter, hpasses⟩ :=
            passes_tag (by decide) rfl rfl (by simp) hout' hcall'
          refine ⟨_, _, .tag .output body, rest, rfl, ?_, ?_, hpasses⟩
          · exact cutSection?_tag (by decide) (by simp) hbody hafter
          · exact hsize rfl hbody
      | statement line' hword =>
          obtain ⟨body, rest, hbody, hafter, hpasses⟩ :=
            passes_tag (by decide) rfl rfl (by simp) hout' hcall'
          refine ⟨_, _, .tag .statement body, rest, rfl, ?_, ?_, hpasses⟩
          · exact cutSection?_tag (by decide) (by simp [hword]) hbody hafter
          · exact hsize rfl hbody
      | @raw more after body rest sign before behind s drop' line' hword hclosed =>
          obtain ⟨lead, hlead, -⟩ := bareTag?_eq hword (by decide)
          obtain ⟨lead', hlead', -⟩ := splitAtEndRaw?_eq hclosed
          have hinner : (takeSign more).2 = lead ++ '%' :: '\x7d' :: body ++
              '\x7b' :: '%' :: lead' ++ '%' :: '\x7d' :: rest := by
            rw [hlead, hlead']
            simp
          have hcalled : CalledIn name rest :=
            ⟨fuel, drop', line', @Outside.of_append _ [_] hout', hcall'.of_cons (by simp) rfl⟩
          refine ⟨_, _, .raw body, rest, rfl, ?_, hsize rfl hinner, fun hclean tail => ?_⟩
          · simp [cutSection?, hword, hclosed]
          · exact Or.inr ⟨hcalled, fun w hw =>
              (scanned_signed_raw tail hword hclosed hclean).symm ▸ hw⟩
      | @comment more body rest drop' line' hclosed =>
          have hcalled : CalledIn name rest := ⟨fuel, drop', line', hout', hcall'⟩
          refine ⟨_, _, .comment body, rest, rfl, ?_, hsize rfl (splitAtPair?_eq hclosed),
            fun hclean tail => ?_⟩
          · simp [cutSection?, hclosed]
          · exact Or.inr ⟨hcalled, fun w hw =>
              (scanned_signed_comment tail hclosed hclean).symm ▸ hw⟩
      | nothing _ => exact absurd hcall' CallsIn.not_nil

/--
**Where all sections are clean the scan finds every call.**

The induction is on the fuel of `sections`: a section is passed, and what is behind it is
shorter.
-/
theorem scanned_of_calledIn (size : Nat) : ∀ {cs : List Char}, cs.length < size →
    (sections size cs).all Section.clean = true → CalledIn name cs →
    ∀ tail, name.toList ∈ scanned (cs ++ tail) := by
  induction size with
  | zero => intro cs hsize; omega
  | succ size ih =>
      intro cs hsize hclean hcalled tail
      obtain ⟨kind, more, s, rest, htag, hcut, hlength, hpasses⟩ := hcalled.section
      rw [sections, htag] at hclean
      simp only [hcut, List.all_cons, Bool.and_eq_true] at hclean
      obtain ⟨lead, -, hscan⟩ := splitAtTag_spec tail htag
      rw [scanned, hscan]
      rcases hpasses hclean.1 tail with hfound | ⟨hlater, hmem⟩
      · exact hfound
      · exact hmem _ (ih (by omega) hclean.2 hlater tail)

end Found

/-- A source is what the lexer reads of it and perhaps a line break. -/
theorem withoutFinalBreak_append (cs : List Char) :
    ∃ tail, withoutFinalBreak cs ++ tail = cs ∧ ∀ c ∈ tail, c = '\n' ∨ c = '\r' := by
  have hdrop : ∀ (cs : List Char) (c : Char), ∃ tail,
      (if cs.getLast? = some c then cs.dropLast else cs) ++ tail = cs ∧ ∀ d ∈ tail, d = c := by
    intro cs c
    split
    · rename_i h
      obtain ⟨front, rfl⟩ := List.getLast?_eq_some_iff.mp h
      exact ⟨[c], by simp, by simp⟩
    · exact ⟨[], List.append_nil cs, by simp⟩
  unfold withoutFinalBreak
  obtain ⟨tail, htail, hn⟩ := hdrop cs '\n'
  obtain ⟨tail', htail', hr⟩ := hdrop (if cs.getLast? = some '\n' then cs.dropLast else cs) '\r'
  refine ⟨tail' ++ tail, by rw [← List.append_assoc, htail', htail], fun c hc => ?_⟩
  exact (List.mem_append.mp hc).symm.imp (hn c) (hr c)

/--
**In a source that is cut cleanly every call without parentheses around its name is found.**
-/
theorem mem_calledNames {source name : String} (hclean : cleanlyCut source = true)
    (hout : Outside (tokensOf source)) (h : SpelledWithin 0 (tokensOf source) name) :
    name ∈ calledNames source := by
  obtain ⟨tail, htail, -⟩ := withoutFinalBreak_append source.toList
  have hcalled : CalledIn name (withoutFinalBreak source.toList) :=
    ⟨_, _, _, hout, .of_spelledWithin h⟩
  have hfound := scanned_of_calledIn _ (Nat.lt_succ_self _) hclean hcalled tail
  rw [htail] at hfound
  exact List.mem_map.mpr ⟨name.toList, hfound, String.ofList_toList⟩

end Folio.Template
