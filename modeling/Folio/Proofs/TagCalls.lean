/-
Calls among the tokens of one tag.

`CallsIn` says that a name is called somewhere in a list of tokens.  A tag that is closed ends
for the lexer at a certain closing delimiter, which `afterTag?` finds; up to there the scan for
called names finds every name that the tokens call (`lexTag_closed`), and what the tokens call
otherwise comes after the tag.  A tag that is not closed takes all tokens that are left
(`lexTag_open`).
-/
import Folio.Proofs.TagScan

namespace Folio.Template

/-! ### Calls among the tokens of a tag -/

namespace Tokens

@[simp] theorem kinds_nil {failure : Option Unreadable} : ({ failure } : Tokens).kinds = [] := rfl

@[simp] theorem kinds_broken {line : Nat} : (broken line).kinds = [] := rfl

@[simp] theorem kinds_badEscape : badEscape.kinds = [] := rfl

@[simp] theorem kinds_cons {t : Token} {line : Nat} {rest : Tokens} :
    (cons t line rest).kinds = t :: rest.kinds := rfl

end Tokens

/-- The name is called somewhere in the tokens; `ready` tells whether an operand may stand at
their start. -/
inductive CallsIn (name : String) : Bool → List Token → Prop
  | here {rest : List Token} : CallsIn name true (.ident name :: .parenOpen :: rest)
  | there {ready : Bool} {t : Token} {rest : List Token}
      (later : CallsIn name t.leadsOperand rest) : CallsIn name ready (t :: rest)

theorem CallsIn.not_nil {name : String} {ready : Bool} : ¬ CallsIn name ready [] := by
  rintro ⟨⟩

/-- What is spelled as a call without parentheses around its name is called. -/
theorem CallsIn.of_spelledWithin {all : List Token} {name : String}
    (h : SpelledWithin 0 all name) : CallsIn name true all := by
  obtain ⟨before, rest, rfl, hready⟩ := h
  have hcall : ∀ (before : List Token) (ready : Bool),
      (before = [] → ready = true) → Ready before →
      CallsIn name ready (before ++ wrapped 0 name ++ .parenOpen :: rest) := by
    intro before
    induction before with
    | nil =>
        intro ready hstart _
        rw [hstart rfl]
        exact .here
    | cons t before ih =>
        intro ready _ hready
        refine .there (ih _ ?_ ?_)
        · rintro rfl
          exact hready t rfl
        · intro u hu
          refine hready u ?_
          rw [List.getLast?_cons, hu]
          rfl
  exact hcall before true (fun _ => rfl) hready

/-! ### One step inside of a tag -/

/-- What comes next in a tag. -/
inductive TagStep where
  | blank
  /-- The end of the tag, by its sign and what follows it. -/
  | closed (sign : Sign) (rest : List Char)
  | token (front : FrontToken)
  /-- Nothing that can be read. -/
  | stuck

/-- What comes next in a tag before whose end there is a character left. -/
def tagStep (kind : TagKind) (depth : Int) (dotted : Bool) (c : Char) (rest : List Char) :
    TagStep :=
  if Text.isTagBlank c then .blank
  else
    match if depth = 0 then closing? kind (c :: rest) else none with
    | some (sign, rest) => .closed sign rest
    | none =>
      match readToken dotted (c :: rest) with
      | .ok front => .token front
      | .error _ => .stuck

/-- What follows the tag that a text is inside of, if that tag is closed. -/
def afterTag? : Nat → TagKind → Int → Bool → List Char → Option (List Char)
  | 0, _, _, _, _ | _ + 1, _, _, _, [] => none
  | fuel + 1, kind, depth, dotted, c :: rest =>
    match tagStep kind depth dotted c rest with
    | .blank => afterTag? fuel kind depth dotted rest
    | .closed _ rest => some rest
    | .token front => afterTag? fuel kind (depth + front.change) front.token.isDot front.rest
    | .stuck => none

section Tag

variable {name : String} {kind : TagKind} {rest : List Char}

theorem afterStart?_eq {as cs rest : List Char} (h : afterStart? as cs = some rest) :
    cs = as ++ rest := by
  fun_induction afterStart? as cs with
  | case1 => simpa using h
  | case2 => simp at h
  | case3 as c cs ih => rw [List.cons_append, ih h]
  | case4 => simp at h

theorem takeSign_append (cs : List Char) :
    ∃ sign, cs = sign ++ (takeSign cs).2 ∧ (sign = [] ∨ sign = ['-'] ∨ sign = ['+']) := by
  unfold takeSign
  split
  · exact ⟨['-'], rfl, by simp⟩
  · exact ⟨['+'], rfl, by simp⟩
  · exact ⟨[], rfl, by simp⟩

theorem closing?_append {cs : List Char} {sign : Sign} (h : closing? kind cs = some (sign, rest)) :
    ∃ lead, cs = lead ++ kind.closing.1 :: kind.closing.2 :: rest ∧
      (lead = [] ∨ lead = ['-'] ∨ lead = ['+']) := by
  simp only [closing?, Option.bind_eq_bind, Option.bind_eq_some_iff, Option.pure_def,
    Option.some.injEq, Prod.mk.injEq] at h
  obtain ⟨more, hmore, -, rfl⟩ := h
  obtain ⟨lead, hlead, hsign⟩ := takeSign_append cs
  rw [afterStart?_eq hmore] at hlead
  exact ⟨lead, hlead, hsign⟩

section Step

variable {depth : Int} {dotted : Bool} {c : Char} {cs : List Char}

theorem tagStep_blank (h : tagStep kind depth dotted c cs = .blank) :
    Text.isTagBlank c = true := by
  unfold tagStep at h
  split at h
  · assumption
  · split at h
    · simp at h
    · split at h <;> simp at h

theorem tagStep_closed {sign : Sign} (h : tagStep kind depth dotted c cs = .closed sign rest) :
    ∃ lead, c :: cs = lead ++ kind.closing.1 :: kind.closing.2 :: rest ∧
      (lead = [] ∨ lead = ['-'] ∨ lead = ['+']) := by
  unfold tagStep at h
  split at h
  · simp at h
  · split at h
    · rename_i hclosing
      cases h
      split at hclosing
      · exact closing?_append hclosing
      · simp at hclosing
    · split at h <;> simp at h

theorem tagStep_token {front : FrontToken} (h : tagStep kind depth dotted c cs = .token front) :
    readToken dotted (c :: cs) = .ok front := by
  unfold tagStep at h
  split at h
  · simp at h
  · split at h
    · simp at h
    · split at h
      · cases h
        assumption
      · simp at h

theorem lexTag_cons (fuel line : Nat) :
    ∃ line', (lexTag (fuel + 1) kind depth dotted line (c :: cs)).kinds =
      match tagStep kind depth dotted c cs with
      | .blank => (lexTag fuel kind depth dotted line' cs).kinds
      | .closed sign rest =>
        (if kind = .output then .outputEnd else .tagEnd) ::
          (lexText fuel (sign = .drop) line' rest).kinds
      | .token front =>
        front.token ::
          (lexTag fuel kind (depth + front.change) front.token.isDot line' front.rest).kinds
      | .stuck => [] := by
  rw [lexTag.eq_def]
  unfold tagStep
  dsimp only
  by_cases hblank : Text.isTagBlank c = true
  · rw [if_pos hblank, if_pos hblank]
    exact ⟨_, rfl⟩
  · rw [if_neg hblank, if_neg hblank]
    cases (if depth = 0 then closing? kind (c :: cs) else none) with
    | some closing => exact ⟨line, rfl⟩
    | none =>
        cases readToken dotted (c :: cs) with
        | ok front => exact ⟨_, rfl⟩
        | error e => cases e <;> exact ⟨line, rfl⟩

end Step

theorem afterTag?_append (fuel : Nat) : ∀ {depth : Int} {dotted : Bool} {cs : List Char},
    afterTag? fuel kind depth dotted cs = some rest →
    ∃ body, cs = body ++ kind.closing.1 :: kind.closing.2 :: rest := by
  induction fuel with
  | zero => intro depth dotted cs h; simp [afterTag?] at h
  | succ fuel ih =>
      intro depth dotted cs h
      cases cs with
      | nil => simp [afterTag?] at h
      | cons c cs =>
          rw [afterTag?] at h
          cases hstep : tagStep kind depth dotted c cs with
          | blank =>
              rw [hstep] at h
              obtain ⟨body, rfl⟩ := ih h
              exact ⟨c :: body, rfl⟩
          | closed sign after =>
              rw [hstep] at h
              cases h
              obtain ⟨lead, hlead, -⟩ := tagStep_closed hstep
              exact ⟨lead, hlead⟩
          | token front =>
              rw [hstep] at h
              obtain ⟨body, hbody⟩ := ih h
              obtain ⟨text, htext, -⟩ := readToken_spelled (tagStep_token hstep)
              exact ⟨text ++ body, by rw [htext, hbody, List.append_assoc]⟩
          | stuck =>
              rw [hstep] at h
              simp at h

/-- A token inside of a closed tag is spelled at the front of the tag's body. -/
theorem afterTag?_token {fuel : Nat} {depth depth' : Int} {dotted dotted' : Bool} {c : Char}
    {body cs : List Char} {front : FrontToken}
    (hstep : tagStep kind depth dotted c cs = .token front)
    (hcs : body ++ kind.closing.1 :: kind.closing.2 :: rest = c :: cs)
    (hafter : afterTag? fuel kind depth' dotted' front.rest = some rest) :
    ∃ text body', body = text ++ body' ∧ c :: cs = text ++ front.rest ∧
      front.rest = body' ++ kind.closing.1 :: kind.closing.2 :: rest ∧
      SpelledBy front.token text ∧ ∀ word, front.token = .ident word →
        ∀ d, body'.head? = some d → Text.isWordChar d = false := by
  obtain ⟨text, htext, -, hspelled, hend⟩ := readToken_spelled (tagStep_token hstep)
  obtain ⟨body', hbody'⟩ := afterTag?_append _ hafter
  have hbody : body = text ++ body' := by
    refine List.append_cancel_right (hcs.trans (htext.trans ?_))
    rw [hbody', List.append_assoc]
  refine ⟨text, body', hbody, htext, hbody', hspelled, fun word hword d hd => ?_⟩
  refine hend word hword d ?_
  rw [hbody', List.head?_append, hd]
  rfl

/-- A closing delimiter neither goes on with a word nor is left out as a blank nor opens a
call. -/
theorem closing_first (kind : TagKind) :
    Text.isWordChar kind.closing.1 = false ∧ Text.isTagBlank kind.closing.1 = false ∧
      kind.closing.1 ≠ '(' := by
  cases kind <;> decide

theorem SpelledBy.of_parenOpen {text : List Char} (h : SpelledBy .parenOpen text) :
    text = ['('] := by
  generalize ht : Token.parenOpen = t at h
  cases h with
  | pair known =>
      subst ht
      unfold pairToken? at known
      split at known <;> simp at known
  | char known =>
      subst ht
      unfold charToken? at known
      split at known <;> simp_all
  | str => cases ht
  | number => rename_i n _; cases n <;> cases ht
  | word => cases ht

/-- Where the lexer goes on with an opening parenthesis, the scan sees one. -/
theorem lexTag_parenOpen (fuel : Nat) : ∀ {depth : Int} {dotted : Bool} {line : Nat}
    {cs : List Char} {toks : List Token},
    (lexTag fuel kind depth dotted line cs).kinds = .parenOpen :: toks →
    Calls.opensCall cs = true := by
  induction fuel with
  | zero => intro depth dotted line cs toks h; simp [lexTag] at h
  | succ fuel ih =>
      intro depth dotted line cs toks h
      cases cs with
      | nil => simp [lexTag] at h
      | cons c cs =>
          obtain ⟨line', heq⟩ := @lexTag_cons kind depth dotted c cs fuel line
          rw [heq] at h
          cases hstep : tagStep kind depth dotted c cs with
          | blank =>
              rw [hstep] at h
              simpa [Calls.opensCall, tagStep_blank hstep] using ih h
          | closed sign after =>
              rw [hstep] at h
              simp only [List.cons.injEq] at h
              split at h <;> simp at h
          | token front =>
              rw [hstep] at h
              simp only [List.cons.injEq] at h
              obtain ⟨text, htext, -, hspelled, -⟩ := readToken_spelled (tagStep_token hstep)
              rw [h.1] at hspelled
              rw [htext, hspelled.of_parenOpen]
              rfl
          | stuck =>
              rw [hstep] at h
              simp at h

/-- A tag that is not closed reaches to the end of the tokens. -/
theorem lexTag_open (fuel : Nat) : ∀ {fuel' line : Nat} {depth : Int} {dotted : Bool}
    {cs : List Char}, cs.length < fuel' → afterTag? fuel' kind depth dotted cs = none →
    ∀ t ∈ (lexTag fuel kind depth dotted line cs).kinds, t.endsSection = false := by
  induction fuel with
  | zero => intro fuel' line depth dotted cs _ _ t ht; simp [lexTag] at ht
  | succ fuel ih =>
      intro fuel' line depth dotted cs hsize hnone t ht
      cases fuel' with
      | zero => omega
      | succ fuel' =>
          cases cs with
          | nil => simp [lexTag] at ht
          | cons c cs =>
              obtain ⟨line', heq⟩ := @lexTag_cons kind depth dotted c cs fuel line
              rw [heq] at ht
              rw [afterTag?] at hnone
              simp only [List.length_cons] at hsize
              cases hstep : tagStep kind depth dotted c cs with
              | blank =>
                  rw [hstep] at ht hnone
                  exact ih (by omega) hnone t ht
              | closed sign after =>
                  rw [hstep] at hnone
                  simp at hnone
              | token front =>
                  rw [hstep] at ht hnone
                  obtain ⟨text, -, -, hspelled, -⟩ := readToken_spelled (tagStep_token hstep)
                  have hlength := readToken_length (tagStep_token hstep)
                  simp only [List.length_cons] at hlength
                  rcases List.mem_cons.mp ht with rfl | ht
                  · exact hspelled.endsSection
                  · exact ih (by omega) hnone t ht
              | stuck =>
                  rw [hstep] at ht
                  simp at ht

/-- A call among the tokens from `t` on is the one of `t` itself, or comes later. -/
theorem Follows.callsIn {ready : Bool} {before before' : Char} {scan scan' text body : List Char}
    {t : Token} {toks : List Token} {later : Prop}
    (hfollows : Follows ready before scan (text ++ body)) (hspelled : SpelledBy t text)
    (hend : ∀ word, t = .ident word → ∀ d, body.head? = some d → Text.isWordChar d = false)
    (hopen : ∀ toks', toks = .parenOpen :: toks' → Calls.opensCall body = true)
    (hnames : ∀ word ∈ Calls.namesIn before' scan', word ∈ Calls.namesIn before scan)
    (hlater : CallsIn name t.leadsOperand toks →
      name.toList ∈ Calls.namesIn before' scan' ∨ later)
    (h : CallsIn name ready (t :: toks)) : name.toList ∈ Calls.namesIn before scan ∨ later := by
  cases h with
  | here => exact Or.inl (hfollows.call hspelled (hend name rfl) (hopen _ rfl))
  | there h => exact (hlater h).imp_left (hnames _)

/--
**A call among the tokens of a closed tag is found in its body, or comes after the tag.**

The induction is on the lexer's fuel.  `Follows` is what each token hands on to the next: where
the scan stands, and whether a name that comes now may be an operand.
-/
theorem lexTag_closed (fuel : Nat) : ∀ {fuel' line : Nat} {depth : Int} {dotted ready : Bool}
    {before : Char} {scan body : List Char},
    afterTag? fuel' kind depth dotted (body ++ kind.closing.1 :: kind.closing.2 :: rest) =
      some rest →
    Follows ready before scan body →
    ∃ fuel'' drop line' inside,
      (lexTag fuel kind depth dotted line
        (body ++ kind.closing.1 :: kind.closing.2 :: rest)).kinds =
        inside ++ (lexText fuel'' drop line' rest).kinds ∧
      (CallsIn name ready (inside ++ (lexText fuel'' drop line' rest).kinds) →
        name.toList ∈ Calls.namesIn before scan ∨
          CallsIn name true (lexText fuel'' drop line' rest).kinds) := by
  induction fuel with
  | zero =>
      intro fuel' line depth dotted ready before scan body _ _
      refine ⟨0, false, line, [], by simp [lexTag, lexText], fun h => ?_⟩
      exact absurd h CallsIn.not_nil
  | succ fuel ih =>
      intro fuel' line depth dotted ready before scan body hafter hfollows
      cases fuel' with
      | zero => simp [afterTag?] at hafter
      | succ fuel' =>
          obtain ⟨-, hblank, hparen⟩ := closing_first kind
          generalize hcs : body ++ kind.closing.1 :: kind.closing.2 :: rest = cs at hafter
          cases cs with
          | nil => simp [afterTag?] at hafter
          | cons c cs =>
              obtain ⟨line', hkinds⟩ := @lexTag_cons kind depth dotted c cs fuel line
              rw [hkinds]
              rw [afterTag?] at hafter
              cases hstep : tagStep kind depth dotted c cs with
              | blank =>
                  rw [hstep] at hafter
                  have hc := tagStep_blank hstep
                  cases body with
                  | nil =>
                      cases hcs
                      rw [hblank] at hc
                      cases hc
                  | cons d body =>
                      cases hcs
                      obtain ⟨scan', hfollows', hnames⟩ := hfollows.blank hc
                      obtain ⟨f, drop, line'', inside, heq, hcall⟩ :=
                        @ih _ line' _ _ _ _ _ _ hafter hfollows'
                      exact ⟨f, drop, line'', inside, heq, fun h => (hcall h).imp_left (hnames _)⟩
              | closed sign after =>
                  rw [hstep] at hafter
                  cases hafter
                  refine ⟨fuel, _, line', [_], rfl, fun h => Or.inr ?_⟩
                  split at h
                  · cases h with | there later => exact later
                  · cases h with | there later => exact later
              | token front =>
                  rw [hstep] at hafter
                  dsimp only at hafter ⊢
                  obtain ⟨text, body', rfl, -, hbody', hspelled, hend⟩ :=
                    afterTag?_token hstep hcs hafter
                  obtain ⟨before', scan', hfollows', hnames⟩ := hfollows.token hspelled hend
                  rw [hbody'] at hafter
                  obtain ⟨f, drop, line'', inside, heq, hcall⟩ :=
                    @ih _ line' _ _ _ _ _ _ hafter hfollows'
                  rw [hbody']
                  refine ⟨f, drop, line'', front.token :: inside, by simp [heq], fun h => ?_⟩
                  refine hfollows.callsIn hspelled hend (fun toks ht => ?_) hnames hcall h
                  exact (opensCall_append hblank hparen body' _).symm.trans
                    (lexTag_parenOpen _ (heq.trans ht))
              | stuck =>
                  rw [hstep] at hafter
                  simp at hafter

end Tag

end Folio.Template
