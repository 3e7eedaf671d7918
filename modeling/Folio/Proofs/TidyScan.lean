/-
What the scan for called names finds stands among the tokens.

The scan takes for a call what is none where a section is not clean, and where a number holds
letters, since it knows no numbers.  A source is tidy if neither is the case and all of its sections
are closed.  In a tidy source the scan and the lexer are level after every token, so that a name
that the scan finds is one in front of an opening parenthesis among the tokens
(`faces_of_calledNames`).

`Behind` is what each token hands on to the next: the character that the scan remembers tells
whether the token before was a point or a pipe.
-/
import Folio.Proofs.NamesInFront
import Folio.Proofs.Sections

namespace Folio.Template

/-! ### Tidy sources -/

def Token.isNumber : Token → Bool
  | .int _ | .float _ => true
  | _ => false

/-- Whether the numbers in a tag hold no letters. -/
def plainNumbers : Nat → TagKind → Int → Bool → List Char → Bool
  | 0, _, _, _, _ | _ + 1, _, _, _, [] => true
  | fuel + 1, kind, depth, dotted, c :: rest =>
    match tagStep kind depth dotted c rest with
    | .blank => plainNumbers fuel kind depth dotted rest
    | .token front =>
      let text := (c :: rest).take ((c :: rest).length - front.rest.length)
      !(front.token.isNumber && text.any Text.isWordStart) &&
        plainNumbers fuel kind (depth + front.change) front.token.isDot front.rest
    | .closed .. | .stuck => true

/-- Whether the numbers in a section hold no letters; `inner` is the text from the section on. -/
def Section.plain (inner : List Char) : Section → Bool
  | .tag kind _ => plainNumbers (inner.length + 1) kind 0 false inner
  | _ => true

/-- Whether all sections of a text are closed, clean and without letters in their numbers. -/
def tidyText : Nat → List Char → Bool
  | 0, _ => false
  | fuel + 1, cs =>
    match (splitAtTag cs).2 with
    | none => true
    | some (kind, more) =>
      match cutSection? kind (takeSign more).2 with
      | some (s, rest) => s.clean && s.plain (takeSign more).2 && tidyText fuel rest
      | none => false

/-- Whether the scan for called names takes a source for what it is. -/
def tidy (source : String) : Bool :=
  let cs := withoutFinalBreak source.toList
  tidyText (cs.length + 1) cs

/-! ### One token -/

/-- Behind a point or a pipe the scan remembers it. -/
def Behind (taken : List Token) (before : Char) : Prop :=
  ∀ t, taken.getLast? = some t → t.leadsCall = false → before = '.' ∨ before = '|'

section Step

variable {kind : TagKind} {taken : List Token} {before : Char} {rest text : List Char} {t : Token}

theorem behind_concat {taken : List Token} {before : Char}
    (h : t.leadsCall = false → before = '.' ∨ before = '|') : Behind (taken ++ [t]) before := by
  intro u hu
  rw [List.getLast?_concat] at hu
  cases hu
  exact h

/-- Where the scan remembers neither a point nor a pipe a name may be called. -/
theorem Behind.faces {name : String} (h : Behind taken before) (hdot : before ≠ '.')
    (hpipe : before ≠ '|') (toks : List Token) :
    Faces (taken ++ .ident name :: .parenOpen :: toks) (taken ++ [.ident name]) name :=
  ⟨taken, toks, rfl, by simp, fun t ht => eq_true_of_ne_false fun hfalse =>
    (h t ht hfalse).elim hdot hpipe⟩

theorem pairToken?_leadsCall {c d : Char} (h : pairToken? c d = some t) : t.leadsCall = true := by
  unfold pairToken? at h
  split at h <;> cases h <;> rfl

theorem charToken?_leadsCall {c : Char} {change : Int} (h : charToken? c = some (t, change))
    (ht : t.leadsCall = false) : c = '.' ∨ c = '|' := by
  unfold charToken? at h
  split at h <;> cases h <;> first | exact .inl rfl | exact .inr rfl | cases ht

theorem namesIn_number (hchars : ∀ c ∈ text, isNumberChar c = true)
    (hplain : ∀ c ∈ text, Text.isWordStart c = false) :
    ∃ before', Calls.namesIn before (text ++ rest) = Calls.namesIn before' rest := by
  induction text generalizing before with
  | nil => exact ⟨before, rfl⟩
  | cons c text ih =>
      have hquotes := isNumberChar_ne_quote (hchars c List.mem_cons_self)
      rw [List.cons_append, namesIn_skip hquotes.1 hquotes.2 (hplain c List.mem_cons_self)]
      exact ih (fun d hd => hchars d (List.mem_cons_of_mem _ hd))
        fun d hd => hplain d (List.mem_cons_of_mem _ hd)

/-- What the scan finds from a token on is the token itself in front of an opening parenthesis, or
comes later. -/
theorem namesIn_token (ht : SpelledBy t text)
    (hplain : t.isNumber = true → ∀ c ∈ text, Text.isWordStart c = false)
    (hend : ∀ word, t = .ident word → ∀ c, rest.head? = some c → Text.isWordChar c = false) :
    ∃ before', Behind (taken ++ [t]) before' ∧
      ∀ name ∈ Calls.namesIn before (text ++ rest),
        (t = .ident (String.ofList name) ∧ Calls.opensCall rest = true ∧ before ≠ '.' ∧
          before ≠ '|') ∨ name ∈ Calls.namesIn before' rest := by
  cases ht with
  | @pair c d t known =>
      obtain ⟨hc, hd, -⟩ := pairToken?_symbolic known
      refine ⟨d, behind_concat fun ht => ?_, fun name hname => .inr ?_⟩
      · rw [pairToken?_leadsCall known] at ht
        cases ht
      · rwa [List.cons_append, List.cons_append, List.nil_append, namesIn_symbolic hc,
          namesIn_symbolic hd] at hname
  | @char c t change known =>
      refine ⟨c, behind_concat (charToken?_leadsCall known), fun name hname => .inr ?_⟩
      rwa [List.cons_append, List.nil_append,
        namesIn_symbolic (charToken?_symbolic known).1] at hname
  | @str q inner s quote closed =>
      refine ⟨q, behind_concat (by simp [Token.leadsCall]), fun name hname => .inr ?_⟩
      rw [List.cons_append, List.cons_append, namesIn_quote quote, List.append_assoc,
        List.singleton_append, closed] at hname
      exact hname
  | @number n text chars =>
      have hnumber : (Token.ofNumeral n).isNumber = true := by cases n <;> rfl
      obtain ⟨before', hscan⟩ := @namesIn_number before rest text chars (hplain hnumber)
      refine ⟨before', behind_concat ?_, fun name hname => .inr (hscan ▸ hname)⟩
      cases n <;> simp [Token.ofNumeral, Token.leadsCall]
  | @word c w start chars =>
      refine ⟨'a', behind_concat (by simp [Token.leadsCall]), fun name hname => ?_⟩
      rw [List.cons_append, namesIn_wordStart start, dropWhile_word chars (hend _ rfl),
        takeWhile_word chars (hend _ rfl)] at hname
      split at hname
      · rename_i hopen
        simp only [Bool.and_eq_true, decide_eq_true_eq] at hopen
        rcases List.mem_cons.mp hname with rfl | hname
        · exact .inl ⟨rfl, hopen.1.1, hopen.1.2, hopen.2⟩
        · exact .inr hname
      · exact .inr hname

end Step

/-! ### One tag -/

section Tag

variable {kind : TagKind} {rest : List Char}

theorem lexTag_ends (fuel : Nat) : ∀ {fuel' line : Nat} {depth : Int} {dotted : Bool}
    {cs : List Char}, afterTag? fuel' kind depth dotted cs = some rest → cs.length < fuel →
    ∃ front u fuel'' drop line',
      (lexTag fuel kind depth dotted line cs).kinds =
        front ++ [u] ++ (lexText fuel'' drop line' rest).kinds ∧
      u.leadsCall = true ∧ rest.length < fuel'' := by
  induction fuel with
  | zero => intro fuel' line depth dotted cs _ hsize; omega
  | succ fuel ih =>
      intro fuel' line depth dotted cs hafter hsize
      cases fuel' with
      | zero => simp [afterTag?] at hafter
      | succ fuel' =>
          cases cs with
          | nil => simp [afterTag?] at hafter
          | cons c cs =>
              obtain ⟨line', hkinds⟩ := @lexTag_cons kind depth dotted c cs fuel line
              rw [hkinds]
              rw [afterTag?] at hafter
              simp only [List.length_cons] at hsize
              cases hstep : tagStep kind depth dotted c cs with
              | blank =>
                  rw [hstep] at hafter
                  exact ih hafter (by omega)
              | closed sign after =>
                  rw [hstep] at hafter
                  cases hafter
                  obtain ⟨lead, hlead, -⟩ := tagStep_closed hstep
                  have hlength := congrArg List.length hlead
                  simp only [List.length_cons, List.length_append] at hlength
                  refine ⟨[], _, fuel, _, line', rfl, ?_, by omega⟩
                  split <;> rfl
              | token front =>
                  rw [hstep] at hafter
                  have hlength := readToken_length (tagStep_token hstep)
                  simp only [List.length_cons] at hlength
                  obtain ⟨toks, u, f, drop, line'', heq, hu, hf⟩ :=
                    @ih _ line' _ _ _ hafter (by omega)
                  exact ⟨front.token :: toks, u, f, drop, line'', by simp [heq], hu, hf⟩
              | stuck =>
                  rw [hstep] at hafter
                  simp at hafter

theorem tagStep_parenOpen (depth : Int) (dotted : Bool) (cs : List Char) :
    tagStep kind depth dotted '(' cs = .token { token := .parenOpen, change := 1, rest := cs } := by
  have hopen : (if depth = 0 then closing? kind ('(' :: cs) else none) = none := by
    split
    · cases kind <;> rfl
    · rfl
  have hread : readToken dotted ('(' :: cs) =
      .ok { token := .parenOpen, change := 1, rest := cs } := by
    cases cs <;> rfl
  rw [tagStep, if_neg (by decide), hopen, hread]

/-- Where the scan sees an opening parenthesis the lexer goes on with one. -/
theorem lexTag_opens (fuel : Nat) : ∀ {depth : Int} {dotted : Bool} {line : Nat} {cs : List Char},
    Calls.opensCall cs = true → cs.length < fuel →
    ∃ toks, (lexTag fuel kind depth dotted line cs).kinds = .parenOpen :: toks := by
  induction fuel with
  | zero => intro depth dotted line cs _ hsize; omega
  | succ fuel ih =>
      intro depth dotted line cs hopen hsize
      cases cs with
      | nil => simp [Calls.opensCall] at hopen
      | cons c cs =>
          simp only [List.length_cons] at hsize
          obtain ⟨line', hkinds⟩ := @lexTag_cons kind depth dotted c cs fuel line
          rw [hkinds]
          by_cases hblank : Text.isTagBlank c = true
          · have hstep : tagStep kind depth dotted c cs = .blank := by rw [tagStep, if_pos hblank]
            rw [hstep]
            exact ih (by simpa [Calls.opensCall, hblank] using hopen) (by omega)
          · simp only [Calls.opensCall, List.dropWhile_cons, if_neg hblank, List.head?_cons,
              Option.some.injEq, decide_eq_true_eq] at hopen
            rw [hopen, tagStep_parenOpen]
            exact ⟨_, rfl⟩

/-- A token of a tag without letters in its numbers. -/
theorem plainNumbers_token {fuel : Nat} {depth : Int} {dotted : Bool} {c : Char}
    {cs text : List Char} {front : FrontToken}
    (hplain : plainNumbers (fuel + 1) kind depth dotted (c :: cs) = true)
    (hstep : tagStep kind depth dotted c cs = .token front) (htext : c :: cs = text ++ front.rest) :
    (front.token.isNumber = true → ∀ d ∈ text, Text.isWordStart d = false) ∧
      plainNumbers fuel kind (depth + front.change) front.token.isDot front.rest = true := by
  have htaken : (c :: cs).take ((c :: cs).length - front.rest.length) = text := by
    rw [htext, List.length_append, Nat.add_sub_cancel, List.take_left]
  rw [plainNumbers, hstep] at hplain
  simp only [htaken, Bool.and_eq_true, Bool.not_eq_true', Bool.and_eq_false_imp,
    List.any_eq_false, Bool.not_eq_true] at hplain
  exact hplain

/--
**What the scan finds in a closed tag stands in front of an opening parenthesis.**

The induction is on the lexer's fuel, which is enough for all of the text; `Behind` is what each
token hands on to the next.
-/
theorem lexTag_faces (fuel : Nat) : ∀ {fuel' line : Nat} {depth : Int} {dotted : Bool}
    {before : Char} {body : List Char} {taken : List Token} {name : List Char},
    afterTag? fuel' kind depth dotted (body ++ kind.closing.1 :: kind.closing.2 :: rest) =
      some rest →
    plainNumbers fuel' kind depth dotted (body ++ kind.closing.1 :: kind.closing.2 :: rest) =
      true →
    (body ++ kind.closing.1 :: kind.closing.2 :: rest).length < fuel →
    Behind taken before → name ∈ Calls.namesIn before body →
    ∃ taken', Faces (taken ++ (lexTag fuel kind depth dotted line
      (body ++ kind.closing.1 :: kind.closing.2 :: rest)).kinds) taken' (String.ofList name) := by
  obtain ⟨-, hblank, hparen⟩ := closing_first kind
  induction fuel with
  | zero => intro fuel' line depth dotted before body taken name _ _ hsize; omega
  | succ fuel ih =>
      intro fuel' line depth dotted before body taken name hafter hplain hsize hbehind hname
      cases fuel' with
      | zero => simp [afterTag?] at hafter
      | succ fuel' =>
          generalize hcs : body ++ kind.closing.1 :: kind.closing.2 :: rest = cs at *
          cases cs with
          | nil => simp [afterTag?] at hafter
          | cons c cs =>
              obtain ⟨line', hkinds⟩ := @lexTag_cons kind depth dotted c cs fuel line
              rw [hkinds]
              rw [afterTag?] at hafter
              simp only [List.length_cons] at hsize
              cases hstep : tagStep kind depth dotted c cs with
              | blank =>
                  rw [hstep] at hafter
                  rw [plainNumbers, hstep] at hplain
                  have hc := tagStep_blank hstep
                  cases body with
                  | nil =>
                      cases hcs
                      rw [hblank] at hc
                      cases hc
                  | cons d body =>
                      obtain ⟨rfl, rfl⟩ := List.cons.inj hcs
                      rw [namesIn_blank hc] at hname
                      exact ih hafter hplain (Nat.lt_of_succ_lt_succ hsize) hbehind hname
              | closed sign after =>
                  -- Nothing but a sign is left of the body.
                  rw [hstep] at hafter
                  cases hafter
                  obtain ⟨lead, hlead, hsign⟩ := tagStep_closed hstep
                  rw [List.append_cancel_right (hcs.trans hlead),
                    namesIn_eq_nil (quiet_sign hsign).2] at hname
                  cases hname
              | token front =>
                  rw [hstep] at hafter
                  dsimp only at hafter ⊢
                  obtain ⟨text, body', rfl, htext, hbody', hspelled, hend⟩ :=
                    afterTag?_token hstep hcs hafter
                  obtain ⟨hnumber, hplain'⟩ := plainNumbers_token hplain hstep htext
                  have hlength := readToken_length (tagStep_token hstep)
                  simp only [List.length_cons] at hlength
                  obtain ⟨before', hbehind', hnames⟩ :=
                    @namesIn_token taken before body' text front.token hspelled hnumber hend
                  rcases hnames name hname with ⟨htoken, hopen, hdot, hpipe⟩ | hlater
                  · rw [← opensCall_append hblank hparen body' (kind.closing.2 :: rest),
                      ← hbody'] at hopen
                    obtain ⟨toks, htoks⟩ := @lexTag_opens kind fuel
                      (depth + front.change) front.token.isDot line' _ hopen (by omega)
                    rw [htoks, htoken]
                    exact ⟨_, hbehind.faces hdot hpipe toks⟩
                  · rw [hbody'] at hafter hplain' hlength ⊢
                    obtain ⟨taken', hfaces⟩ :=
                      @ih _ line' _ _ _ _ _ _ hafter hplain' (by omega) hbehind' hlater
                    exact ⟨taken', by simpa using hfaces⟩
              | stuck =>
                  rw [hstep] at hafter
                  simp at hafter

end Tag

/-! ### All sections -/

/-- Wherever the text is lexed to its end behind tokens that a call may follow, the name stands in
front of an opening parenthesis among the tokens. -/
def FacesIn (name cs : List Char) : Prop :=
  ∀ taken fuel drop line, cs.length < fuel →
    (∀ t, taken.getLast? = some t → t.leadsCall = true) →
    ∃ taken', Faces (taken ++ (lexText fuel drop line cs).kinds) taken' (String.ofList name)

section Found

variable {kind : TagKind} {s : Section} {name sign body cs inner more rest tail : List Char}

/-- Where no section begins the scan finds nothing. -/
theorem scanned_text (h : (splitAtTag cs).2 = none) (htail : ∀ c ∈ tail, c = '\n' ∨ c = '\r') :
    scanned (cs ++ tail) = [] := by
  fun_induction splitAtTag cs with
  | case1 =>
      induction tail with
      | nil => simp [scanned, Calls.tagBodies]
      | cons c tail ih =>
          rw [List.nil_append, scanned_skip]
          · exact ih fun d hd => htail d (List.mem_cons_of_mem _ hd)
          · rcases htail c List.mem_cons_self with rfl | rfl <;> decide
  | case2 => simp at h
  | case3 => simp at h
  | case4 => simp at h
  | case5 c rest h₁ h₂ h₃ lead tag htag ih =>
      rw [htag] at ih
      rw [List.cons_append, scanned, tagBodies_skip, ← scanned, ih h]
      rintro rfl d hd
      cases rest with
      | nil =>
          rcases htail d (List.mem_of_mem_head? hd) with rfl | rfl <;> rfl
      | cons e rest =>
          cases hd
          refine closingPair?_eq_none ?_ ?_
          · rintro rfl
            exact h₁ _ rfl rfl
          · rintro rfl
            exact h₂ _ rfl rfl

theorem cutSection?_of_tag (hkind : kind ≠ .comment)
    (hword : (if kind = .statement then bareTag? "raw" inner else none) = none)
    (h : cutSection? kind inner = some (s, rest)) :
    ∃ body, s = .tag kind body ∧ inner = body ++ kind.closing.1 :: kind.closing.2 :: rest ∧
      afterTag? (inner.length + 1) kind 0 false inner = some rest := by
  have hafter : afterTag? (inner.length + 1) kind 0 false inner = some rest := by
    rw [cutSection?, if_neg hkind, hword] at h
    simp only [Option.map_eq_some_iff, Prod.mk.injEq] at h
    obtain ⟨rest', hafter, -, rfl⟩ := h
    exact hafter
  obtain ⟨body, hbody⟩ := afterTag?_append _ hafter
  rw [cutSection?_tag hkind hword hbody hafter] at h
  cases h
  exact ⟨body, rfl, hbody, hafter⟩

theorem cutSection?_length (h : cutSection? kind inner = some (s, rest)) :
    rest.length < inner.length := by
  have hlength : ∀ {front : List Char} {a b : Char}, inner = front ++ a :: b :: rest →
      rest.length < inner.length := by
    rintro front a b rfl
    simp only [List.length_append, List.length_cons]
    omega
  unfold cutSection? at h
  split at h
  · simp only [Option.map_eq_some_iff, Prod.mk.injEq] at h
    obtain ⟨⟨body, rest'⟩, hclosed, -, rfl⟩ := h
    exact hlength (splitAtPair?_eq hclosed)
  · split at h
    · rename_i sign after hword
      split at hword
      · simp only [Option.map_eq_some_iff, Prod.mk.injEq] at h
        obtain ⟨⟨body, before, behind, rest'⟩, hclosed, -, rfl⟩ := h
        obtain ⟨lead, hlead, -⟩ := bareTag?_eq hword (by decide)
        obtain ⟨lead', hlead', -⟩ := splitAtEndRaw?_eq hclosed
        refine @hlength (lead ++ '%' :: '\x7d' :: body ++ '\x7b' :: '%' :: lead') '%' '\x7d' ?_
        rw [hlead, hlead']
        simp
      · cases hword
    · simp only [Option.map_eq_some_iff, Prod.mk.injEq] at h
      obtain ⟨rest', hafter, -, rfl⟩ := h
      obtain ⟨body, hbody⟩ := afterTag?_append _ hafter
      exact hlength hbody

theorem leads_concat {taken : List Token} {u : Token} (hu : u.leadsCall = true) :
    ∀ t, (taken ++ [u]).getLast? = some t → t.leadsCall = true := by
  intro t ht
  rw [List.getLast?_concat] at ht
  cases ht
  exact hu

/-- What is found in a tag and behind it. -/
theorem facesIn_tag {t : Token} {taken : List Token} {fuel line : Nat} (hkind : kind ≠ .comment)
    (hword : (if kind = .statement then bareTag? "raw" (takeSign more).2 else none) = none)
    (hcut : cutSection? kind (takeSign more).2 = some (s, rest)) (hclean : s.clean = true)
    (hplain : s.plain (takeSign more).2 = true) (hfuel : (takeSign more).2.length < fuel)
    (ht : t.leadsCall = true) (hlater : name ∈ scanned (rest ++ tail) → FacesIn name rest)
    (hname : name ∈ scanned ('\x7b' :: kind.mark :: (more ++ tail))) :
    ∃ taken', Faces (taken ++ t :: (lexTag fuel kind 0 false line (takeSign more).2).kinds) taken'
      (String.ofList name) := by
  obtain ⟨body, rfl, hinner, hafter⟩ := cutSection?_of_tag hkind hword hcut
  obtain ⟨sign, hmore, hsign⟩ := takeSign_append more
  rw [scanned_signed_tag hkind hsign (hinner ▸ hmore) hclean] at hname
  rcases List.mem_append.mp hname with hin | hout
  · obtain ⟨before, -, -, hnames⟩ := @namesIn_sign sign body hsign
    rw [hnames] at hin
    have hbehind : Behind (taken ++ [t]) before := behind_concat fun hfalse => by
      rw [ht] at hfalse
      cases hfalse
    rw [Section.plain] at hplain
    rw [hinner] at hafter hplain hfuel ⊢
    obtain ⟨taken', hfaces⟩ :=
      @lexTag_faces kind rest fuel _ line _ _ _ _ _ _ hafter hplain hfuel hbehind hin
    exact ⟨taken', by simpa using hfaces⟩
  · obtain ⟨front, u, fuel', drop, line', heq, hu, hfuel'⟩ :=
      @lexTag_ends kind rest fuel _ line _ _ _ hafter hfuel
    obtain ⟨taken', hfaces⟩ := hlater hout (taken ++ t :: front ++ [u]) fuel' drop line' hfuel'
      (leads_concat hu)
    exact ⟨taken', by simpa [heq] using hfaces⟩

/-- What is found in the first section of a text and behind it. -/
theorem facesIn_section (htag : (splitAtTag cs).2 = some (kind, more))
    (hcut : cutSection? kind (takeSign more).2 = some (s, rest)) (hclean : s.clean = true)
    (hplain : s.plain (takeSign more).2 = true)
    (hlater : name ∈ scanned (rest ++ tail) → FacesIn name rest)
    (hname : name ∈ scanned (cs ++ tail)) : FacesIn name cs := by
  intro taken fuel drop line hfuel htaken
  obtain ⟨lead, hcs, hscan⟩ := splitAtTag_spec tail htag
  rw [scanned, hscan, ← scanned] at hname
  have hshorter := cutSection?_length hcut
  have hinner : (takeSign more).2.length + 2 ≤ cs.length := by
    obtain ⟨sign, hmore, -⟩ := takeSign_append more
    have hlength := congrArg List.length hmore
    rw [hcs]
    simp only [List.length_append, List.length_cons] at hlength ⊢
    omega
  cases fuel with
  | zero => omega
  | succ fuel =>
      obtain ⟨texts, toks, heq, htexts, henters⟩ := lexText_enters fuel drop line cs
      rw [htag] at henters
      rw [heq, ← List.append_assoc]
      have hlead : ∀ t, (taken ++ texts).getLast? = some t → t.leadsCall = true := by
        rcases htexts with rfl | ⟨text, rfl⟩
        · simpa using htaken
        · exact leads_concat rfl
      cases henters with
      | output line' =>
          exact facesIn_tag (by decide) (by simp) hcut hclean hplain (by omega) rfl hlater hname
      | statement line' hword =>
          exact facesIn_tag (by decide) (by simp [hword]) hcut hclean hplain (by omega) rfl hlater
            hname
      | raw text drop' line' hword hclosed =>
          obtain ⟨rfl, rfl⟩ : _ ∧ _ := by simpa [cutSection?, hword, hclosed] using hcut
          rw [TagKind.mark, scanned_signed_raw tail hword hclosed hclean] at hname
          obtain ⟨taken', hfaces⟩ := hlater hname (taken ++ texts ++ [.text text]) fuel drop' line'
            (by omega) (leads_concat rfl)
          exact ⟨taken', by simpa using hfaces⟩
      | comment drop' line' hclosed =>
          obtain ⟨rfl, rfl⟩ : _ ∧ _ := by simpa [cutSection?, hclosed] using hcut
          rw [TagKind.mark, scanned_signed_comment tail hclosed hclean] at hname
          exact hlater hname (taken ++ texts) fuel drop' line' (by omega) hlead
      | nothing unclosed =>
          rw [unclosed _ _ rfl] at hcut
          cases hcut

/--
**What the scan finds in a tidy text stands in front of an opening parenthesis.**

The induction is on the fuel of `tidyText`, which goes from section to section.
-/
theorem facesIn_of_scanned (htail : ∀ c ∈ tail, c = '\n' ∨ c = '\r') (size : Nat) :
    ∀ {cs : List Char}, tidyText size cs = true → name ∈ scanned (cs ++ tail) →
      FacesIn name cs := by
  induction size with
  | zero => intro cs htidy; simp [tidyText] at htidy
  | succ size ih =>
      intro cs htidy hname
      rw [tidyText] at htidy
      cases htag : (splitAtTag cs).2 with
      | none =>
          rw [scanned_text htag htail] at hname
          cases hname
      | some tag =>
          rw [htag] at htidy
          cases hcut : cutSection? tag.1 (takeSign tag.2).2 with
          | none => simp [hcut] at htidy
          | some cut =>
              simp only [hcut, Bool.and_eq_true] at htidy
              exact facesIn_section htag hcut htidy.1.1 htidy.1.2 (ih htidy.2) hname

end Found

/--
**In a tidy source every name that the scan finds stands in front of an opening parenthesis.**
-/
theorem faces_of_calledNames {source name : String} (htidy : tidy source = true)
    (h : name ∈ calledNames source) : ∃ taken, Faces (tokensOf source) taken name := by
  obtain ⟨tail, htail, hbreak⟩ := withoutFinalBreak_append source.toList
  obtain ⟨cs, hcs, rfl⟩ := List.mem_map.mp h
  rw [← scanned, ← htail] at hcs
  exact facesIn_of_scanned hbreak _ htidy hcs [] _ _ _ (by omega) (by simp)

end Folio.Template
