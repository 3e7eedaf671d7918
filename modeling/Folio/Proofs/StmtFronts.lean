/-
Names in front of parentheses in statements.

Besides its expressions a statement shows at most one name itself: a macro its own, and a filter
block that of its first filter.  `StmtReads` says what the functions for statements ensure with
some fuel, and `stmtReads` is the induction.  A body is followed by one of the words that it stops
at, so that the token taken then is no parenthesis.

`fronts_shown` is the result: every name in front of an opening parenthesis in the tokens of a
template is shown by its tree, or is a word of the language.
-/
import Folio.Proofs.ExprFronts
import Folio.Proofs.StmtCallees

namespace Folio.Template

open Parse

/-! ### What a tree of statements shows -/

mutual

/-- The expressions in a target whose attributes are stored to. -/
def Target.objects : Target → List Expr
  | .var .. => []
  | .list _ items => targetsObjects items
  | .attr _ object _ => [object]

def targetsObjects : List Target → List Expr
  | [] => []
  | t :: rest => t.objects ++ targetsObjects rest

end

mutual

/-- The name of the filter that a chain of filters without a subject begins with. -/
def Expr.firstFilter : Expr → List String
  | .filter _ name subject _ _ => firstFilterOf name subject
  | _ => []

def firstFilterOf (name : String) : Option Expr → List String
  | none => [name]
  | some e => e.firstFilter

end

/-- The expressions directly inside of a statement. -/
def Stmt.exprs : Stmt → List Expr
  | .text .. | .block .. => []
  | .emit _ e | .extend _ e | .eval _ e | .include _ _ e _ => [e]
  | .forLoop _ _ items filter _ _ _ => items :: (filter.map (·.2)).toList
  | .ifElse _ test _ _ => [test]
  | .withBlock _ bindings _ => bindings.map (·.2)
  | .assign _ _ value => [value]
  | .capture _ _ filter _ => filter.toList
  | .autoEscape _ e _ | .filterBlock _ e _ => [e]
  | .importAs _ _ source target => source :: target.objects
  | .importNames _ _ source _ => [source]
  | .defMacro _ _ _ defaults _ => defaults
  | .callBlock _ call _ defaults _ => call :: defaults

/-- The statements directly inside of a statement. -/
def Stmt.parts : Stmt → List Stmt
  | .forLoop _ _ _ _ _ body orElse => body ++ orElse
  | .ifElse _ _ yes no => yes ++ no
  | .withBlock _ _ body | .capture _ _ _ body | .autoEscape _ _ body | .filterBlock _ _ body
  | .block _ _ _ body | .defMacro _ _ _ _ body | .callBlock _ _ _ _ body => body
  | _ => []

/-- A statement has itself and what the statements inside of it have. -/
inductive Stmt.Has : Stmt → Stmt → Prop
  | self (s : Stmt) : Has s s
  | inside {s t x : Stmt} (part : t ∈ s.parts) (has : Has t x) : Has s x

/-- The names that a statement puts in front of parentheses of its own. -/
def Stmt.fronts : Stmt → List String
  | .filterBlock _ filter _ => filter.firstFilter
  | .defMacro _ name _ _ _ => [name]
  | _ => []

/-- The name stands in front of parentheses somewhere in the statement. -/
def Stmt.Shows (s : Stmt) (n : String) : Prop :=
  ∃ x, s.Has x ∧ (n ∈ x.fronts ∨ AnyShows x.exprs n)

/-- The name stands in front of parentheses somewhere in the statements. -/
def BodyShows (body : List Stmt) (n : String) : Prop := ∃ s ∈ body, s.Shows n

section Shows

variable {n : String} {s : Stmt} {body body' : List Stmt}

@[simp] theorem bodyShows_nil : ¬ BodyShows [] n := by
  simp [BodyShows]

@[simp] theorem bodyShows_cons : BodyShows (s :: body) n ↔ s.Shows n ∨ BodyShows body n := by
  simp [BodyShows]

@[simp] theorem bodyShows_append :
    BodyShows (body ++ body') n ↔ BodyShows body n ∨ BodyShows body' n := by
  simp [BodyShows, or_and_right, exists_or]

theorem bodyShows_reverse : BodyShows body.reverse n ↔ BodyShows body n := by
  simp [BodyShows]

theorem Stmt.shows_iff :
    s.Shows n ↔ n ∈ s.fronts ∨ AnyShows s.exprs n ∨ BodyShows s.parts n := by
  constructor
  · rintro ⟨x, hhas, hn⟩
    cases hhas with
    | self => exact hn.imp_right .inl
    | inside part has => exact .inr (.inr ⟨_, part, x, has, hn⟩)
  · rintro (hn | hn | ⟨t, part, x, has, hn⟩)
    · exact ⟨s, .self s, .inl hn⟩
    · exact ⟨s, .self s, .inr hn⟩
    · exact ⟨x, .inside part has, hn⟩

/-- What has been read behind a place is shown by a statement that shows as much. -/
theorem Reads.stmt {all base taken : List Token} {S : String → Prop}
    (h : Reads all base taken S)
    (hS : ∀ n, S n → n ∈ s.fronts ∨ AnyShows s.exprs n ∨ BodyShows s.parts n) :
    Reads all base taken s.Shows :=
  h.mono fun n hn => Stmt.shows_iff.mpr (hS n hn)

end Shows

mutual

/-- What can be stored to shows all that the expression shows. -/
theorem target?_shows {n : String} : ∀ {e : Expr} {t : Target}, e.target? = some t →
    e.Shows n → AnyShows t.objects n
  | .var .., t, _, hn => absurd hn shows_var
  | .attr .., t, h, hn => by
      simp only [Expr.target?, Option.some.injEq] at h
      subst h
      simpa [Target.objects] using hn
  | .list l items, t, h, hn => by
      simp only [Expr.target?, Option.map_eq_some_iff] at h
      obtain ⟨ts, hts, rfl⟩ := h
      rw [shows_list] at hn
      exact targets?_shows hts hn
  | .const .., _, h, _ | .unary .., _, h, _ | .binary .., _, h, _ | .chain .., _, h, _
  | .cond .., _, h, _ | .item .., _, h, _ | .slice .., _, h, _ | .call .., _, h, _
  | .filter .., _, h, _ | .test .., _, h, _ | .map .., _, h, _ => by
      simp [Expr.target?] at h

theorem targets?_shows {n : String} : ∀ {items : List Expr} {ts : List Target},
    targets? items = some ts → AnyShows items n → AnyShows (targetsObjects ts) n
  | [], ts, _, hn => absurd hn anyShows_nil
  | e :: rest, ts, h, hn => by
      simp only [targets?, Option.bind_eq_bind, Option.bind_eq_some_iff, Option.pure_def,
        Option.some.injEq] at h
      obtain ⟨t, ht, ts', hts, rfl⟩ := h
      rw [anyShows_cons] at hn
      rw [targetsObjects, anyShows_append]
      rcases hn with hn | hn
      · exact .inl (target?_shows ht hn)
      · exact .inr (targets?_shows hts hn)

end

/-! ### Targets -/

variable {all base start taken : List Token} {fuel : Nat} {S : String → Prop}

theorem parseTargetAttrs_reads (fuel : Nat) : ∀ (taken : List Token) (line : Nat)
    (object : Expr) (target : Target), Reads all base taken S →
    Ensures all taken (parseTargetAttrs fuel line object target) fun _ taken' =>
      Reads all base taken' S := by
  induction fuel with
  | zero => intro taken line object target _; exact ensures_reject
  | succ fuel ih =>
      intro taken line object target hreads
      rw [parseTargetAttrs]
      refine .takeIf_bind (fun t ht hn => .name_bind fun name hname => ?_) (.pure hreads)
      exact ih _ _ _ _ ((hreads.test hn ht rfl).token hname (by simp))

theorem parseTargetName_reads {dotted : Bool} (hreads : Reads all base taken S) :
    Ensures all taken (parseTargetName fuel dotted) fun _ taken' => Reads all base taken' S := by
  unfold parseTargetName
  refine .name_bind fun name hname => .ite ensures_reject (.get_bind fun p _ => ?_)
  have hreads' := hreads.token hname (by simp)
  exact .ite (parseTargetAttrs_reads _ _ _ _ _ hreads') (.pure hreads')

/-- What the functions for targets ensure: they show no names. -/
structure TargetsRead (all : List Token) (fuel : Nat) : Prop where
  targets : ∀ {base taken dotted} {S : String → Prop}, Opens all taken → Reads all base taken S →
    Ensures all taken (parseTargets fuel dotted) fun _ taken' => Reads all base taken' S
  moreTargets : ∀ {base taken dotted items isList} {S : String → Prop},
    (items = [] → Opens all taken) → Reads all base taken S →
    Ensures all taken (parseMoreTargets fuel dotted items isList) fun _ taken' =>
      Reads all base taken' S

theorem TargetsRead.target_bind {β : Type} {dotted : Bool} {next : Target → Parse β}
    {post : β → List Token → Prop} (h : TargetsRead all fuel) (hopens : Opens all taken)
    (hreads : Reads all base taken S)
    (hnext : ∀ t taken', Reads all base taken' S → Ensures all taken' (next t) post) :
    Ensures all taken
      (do
        if ← takeIf Token.isParenOpen then
          let target ← parseTargets fuel dotted
          expect Token.isParenClose
          let target ← pure target
          next target
        else
          let target ← parseTargetName fuel dotted
          next target)
      post := by
  refine .takeIf_bind (fun t ht hn => ?_) ?_
  · refine (h.targets (shut_test ht rfl).opens (hreads.group hn hopens)).bind
      fun target taken₁ h₁ => .expect_bind fun u hu hclose => .return_bind ?_
    exact hnext target _ (h₁.test hclose hu rfl)
  · exact (parseTargetName_reads hreads).bind fun target taken₁ h₁ => hnext target _ h₁

theorem targetsRead (all : List Token) (fuel : Nat) : TargetsRead all fuel := by
  induction fuel with
  | zero =>
      constructor <;> intros <;> simp only [parseTargets, parseMoreTargets] <;>
        exact ensures_reject
  | succ fuel ih =>
      constructor
      · intro base taken dotted S hopens hreads
        rw [parseTargets]
        refine .nextLine_bind fun line => ?_
        refine (ih.moreTargets (fun _ => hopens) hreads).bind fun r taken' hr => ?_
        dsimp only
        split <;> exact .pure hr
      · intro base taken dotted items isList S hopens hreads
        rw [parseMoreTargets]
        refine .comma_reads (fun hempty => hopens (List.isEmpty_iff.mp hempty)) hreads
          fun taken₁ hopens₁ h₁ => .peek_bind fun r _ => .ite (.pure h₁) ?_
        refine ih.target_bind hopens₁ h₁ fun item taken₂ h₂ => .peek_bind fun r₁ _ => ?_
        exact .ite (ih.moreTargets (by simp) h₂) (.pure h₂)

/-! ### The parts of statements -/

theorem parseBindings_reads (fuel : Nat) : ∀ (taken : List Token)
    (bindings : List (Target × Expr)), (bindings = [] → Opens all taken) →
    Reads all base taken (AnyShows (bindings.map (·.2))) →
    Ensures all taken (parseBindings fuel bindings) fun bindings' taken' =>
      Reads all base taken' (AnyShows (bindings'.map (·.2))) := by
  induction fuel with
  | zero => intro taken bindings _ _; exact ensures_reject
  | succ fuel ih =>
      intro taken bindings hopens hreads
      rw [parseBindings]
      refine .peek_bind fun r _ => .ite (.pure hreads) ?_
      refine .comma_reads (fun hempty => hopens (List.isEmpty_iff.mp hempty)) hreads
        fun taken₁ hopens₁ h₁ => ?_
      refine (targetsRead all fuel).target_bind hopens₁ h₁ fun target taken₂ h₂ => ?_
      refine .expect_bind fun t ht hn => ?_
      refine ((exprReads all fuel).expr (shut_test ht rfl).opens).bind fun value taken₃ hvalue =>
        ih _ _ (by simp) (((h₂.test hn ht rfl).trans hvalue).mono fun n hn => ?_)
      simpa using hn

/--
A chain of filters shows its filters' arguments, and the name of the first filter where nothing
that keeps a name from being called stands before it.
-/
theorem parseFilterChain_reads {P : Prop} (fuel : Nat) : ∀ (taken : List Token)
    (chain : Option Expr),
    (chain = none → (∀ t, taken.getLast? = some t → t.leadsCall = true) → P) →
    Reads all base taken (fun n => (P ∧ ∃ e ∈ chain, n ∈ e.firstFilter) ∨
      AnyShows chain.toList n) →
    Ensures all taken (parseFilterChain fuel chain) fun e taken' =>
      Reads all base taken' fun n => (P ∧ n ∈ e.firstFilter) ∨ e.Shows n := by
  induction fuel with
  | zero => intro taken chain _ _; exact ensures_reject
  | succ fuel ih =>
      intro taken chain hlead hreads
      unfold parseFilterChain
      refine .peek_bind fun r _ => .ite ?_ ?_
      · split
        · exact .pure (hreads.mono fun n hn => by simpa using hn)
        · exact ensures_reject
      · have hfilter : ∀ {taken'}, ((∀ t, taken'.getLast? = some t → t.leadsCall = true) →
              P ∧ chain = none) →
            Reads all base taken' (fun n => (P ∧ ∃ e ∈ chain, n ∈ e.firstFilter) ∨
              AnyShows chain.toList n) →
            Ensures all taken'
              (do
                let name ← parseDottedName fuel
                let line := (← get).last
                let args ← parseOptionalArgs fuel
                parseFilterChain fuel (some (.filter line name chain args.args args.named)))
              fun e taken'' => Reads all base taken'' fun n => (P ∧ n ∈ e.firstFilter) ∨
                e.Shows n := by
          intro taken' hlead' hreads'
          refine (parseDottedName_reads hreads' hlead').bind fun name taken₁ hname => ?_
          have hfirst : Reads all base taken₁ fun n =>
              (P ∧ n ∈ firstFilterOf name chain) ∨ AnyShows chain.toList n := by
            refine hname.1.mono fun n hn => hn.imp_left ?_
            rintro ⟨hP, e, he, hmem⟩
            cases he
            exact ⟨hP, hmem⟩
          refine .get_bind fun p _ => ((exprReads all fuel).optionalArgs (fun n hn => ?_)
            hfirst).bind fun args taken₂ hargs => ih _ _ (by simp) (hargs.mono fun n hn => ?_)
          · obtain ⟨rfl, hP, rfl⟩ := hname.2 n hn
            exact .inr (.inl ⟨hP, by simp [firstFilterOf]⟩)
          · simpa [Args.Shows, Expr.firstFilter, or_assoc] using hn
        cases chain with
        | none => exact hfilter (fun h => ⟨hlead rfl h, rfl⟩) hreads
        | some e =>
            refine .expect_bind fun t ht hn => hfilter (fun h => ?_) (hreads.test hn ht rfl)
            have hpipe := h t (by simp)
            cases t <;> simp [Token.isPipe, Token.leadsCall] at ht hpipe

theorem skipContextWords_reads (hreads : Reads all base taken S) :
    Ensures all taken skipContextWords fun _ taken' => Reads all base taken' S := by
  unfold skipContextWords
  refine (takeIf_reads hreads rfl).bind fun b taken₁ h₁ => .ite ?_ (.pure h₁)
  rw [← bind_pure (expect _)]
  exact .expect_bind fun t ht hn => .pure (h₁.test hn ht rfl)

theorem parseImportNames_reads (fuel : Nat) : ∀ (taken : List Token)
    (names : List (Target × Option Target)), Reads all base taken S →
    Ensures all taken (parseImportNames fuel names) fun _ taken' => Reads all base taken' S := by
  induction fuel with
  | zero => intro taken names _; exact ensures_reject
  | succ fuel ih =>
      intro taken names hreads
      have hrest : ∀ {taken'}, Reads all base taken' S → Ensures all taken'
          (do
            if ((← peek).map Token.isTagEnd).getD false then return names
            else
              let name ← parseTargetName fuel false
              let localName ← if ← takeIf (·.isWord "as") then some <$> parseTargetName fuel false
                else pure none
              parseImportNames fuel (names ++ [(name, localName)]))
          fun _ taken'' => Reads all base taken'' S := by
        intro taken' hreads
        refine .peek_bind fun r₁ _ => .ite (.pure hreads) ?_
        refine (parseTargetName_reads hreads).bind fun name taken₂ h₂ => ?_
        refine .takeIf_bind (fun t ht hn => ?_) (.return_bind (ih _ _ h₂))
        exact .map_bind (parseTargetName_reads (h₂.test hn ht rfl)) fun _ taken₃ h₃ => ih _ _ h₃
      rw [parseImportNames]
      refine .peek_bind fun r _ => ?_
      dsimp only
      -- Whether the list is at its end is decided in four places, and then goes on as here.
      split
      rotate_left
      refine .ite ((skipContextWords_reads hreads).bind fun _ _ hreads => ?_) ?_
      all_goals
        refine .return_bind (.ite (.pure hreads) (.ite (.expect_bind fun t ht hn => ?_) ?_))
        · exact hrest (hreads.test hn ht rfl)
        · exact hrest hreads

theorem parseParams_reads (fuel : Nat) : ∀ (taken : List Token) (params : List String)
    (defaults : List Expr), (params = [] → Opens all taken) →
    Reads all base taken (fun n => S n ∨ AnyShows defaults n) →
    Ensures all taken (parseParams fuel params defaults) fun r taken' =>
      Reads all base taken' (fun n => S n ∨ AnyShows r.2 n) ∧ Shut all taken' := by
  induction fuel with
  | zero => intro taken params defaults _ _; exact ensures_reject
  | succ fuel ih =>
      intro taken params defaults hopens hreads
      rw [parseParams]
      refine .takeIf_bind (fun t ht hn => .pure ⟨hreads.test hn ht rfl, shut_test ht rfl⟩) ?_
      rw [if_neg Bool.false_ne_true]
      refine .comma_reads (fun hempty => hopens (List.isEmpty_iff.mp hempty)) hreads
        fun taken₁ hopens₁ h₁ => ?_
      refine .close_reads (fun _ => rfl) rfl hopens₁ h₁ (fun _ hshut h => ⟨h, hshut⟩)
        fun taken₂ _ h₂ => ?_
      refine .name_bind fun name hname => .ite ensures_reject ?_
      have hnamed := h₂.token hname (by simp)
      refine .takeIf_bind (fun t ht hn => ?_) ?_
      · refine ((exprReads all fuel).expr (shut_test ht rfl).opens).bind fun value taken₃ hvalue =>
          ih _ _ _ (by simp) (((hnamed.test hn ht rfl).trans hvalue).mono fun n hn => ?_)
        simpa [or_assoc] using hn
      · rw [if_neg Bool.false_ne_true]
        refine .ite (ih _ _ _ (by simp) hnamed) ?_
        exact .expect_bind fun _ _ _ => ensures_reject

theorem parseMoreValues_reads (fuel : Nat) : ∀ (taken : List Token) (values : List Expr),
    Reads all base taken (AnyShows values) →
    Ensures all taken (parseMoreValues fuel values) fun values' taken' =>
      Reads all base taken' (AnyShows values') := by
  induction fuel with
  | zero => intro taken values _; exact ensures_reject
  | succ fuel ih =>
      intro taken values hreads
      rw [parseMoreValues]
      refine .takeIf_bind (fun t ht hn => .peek_bind fun r _ => ?_) (.pure hreads)
      refine .ite (.pure (hreads.test hn ht rfl)) ?_
      refine ((exprReads all fuel).expr (shut_test ht rfl).opens).bind fun value taken₁ hvalue =>
        ih _ _ (((hreads.test hn ht rfl).trans hvalue).mono fun n hn => ?_)
      simpa using hn

theorem parseValues_reads (h : Opens all start) :
    Ensures all start (parseValues fuel) fun e taken => Reads all start taken e.Shows := by
  unfold parseValues
  refine .nextLine_bind fun line => ((exprReads all fuel).expr h).bind fun e taken₁ he => ?_
  refine .peek_bind fun r _ => .ite ?_ (.pure he)
  have hlist : Reads all start taken₁ (AnyShows [e]) := he.mono (by simp)
  exact (parseMoreValues_reads _ _ _ hlist).bind fun values taken₂ hvalues =>
    .pure (hvalues.mono (by simp))

/-! ### Statements -/

/-- The next token, if there is one, is one of the words. -/
def AtWord (all taken : List Token) (stops : List String) : Prop :=
  ∀ t, Next all taken t → ∃ w ∈ stops, t.isWord w = true

theorem Parse.Ensures.word_reads {β : Type} {stops : List String} {next : PUnit → Parse β}
    {post : β → List Token → Prop} (hreads : Reads all base taken S) (h : AtWord all taken stops)
    (hnext : ∀ taken', Reads all base taken' S → Ensures all taken' (next ⟨⟩) post) :
    Ensures all taken (discard take >>= next) post := by
  refine .discard_take_bind (fun t ht => hnext _ ?_) fun _ => hnext _ hreads
  obtain ⟨w, -, hw⟩ := h t ht
  exact hreads.test ht hw rfl

/-- What the functions for statements ensure. -/
structure StmtReads (all : List Token) (fuel : Nat) : Prop where
  body : ∀ {base taken stops acc}, Reads all base taken (BodyShows acc) →
    Ensures all taken (parseBody fuel stops acc) fun body taken' =>
      Reads all base taken' (BodyShows body) ∧ AtWord all taken' stops
  stmt : ∀ {start}, Ensures all start (parseStmt fuel) fun s taken => Reads all start taken s.Shows
  ifElse : ∀ {start line}, Opens all start →
    Ensures all start (parseIf fuel line) fun s taken => Reads all start taken s.Shows
  macroBody : ∀ {base taken stop} {S : String → Prop}, Reads all base taken S →
    Ensures all taken (parseMacroBody fuel stop) fun body taken' =>
      Reads all base taken' fun n => S n ∨ BodyShows body n

attribute [local simp] Stmt.fronts Stmt.exprs Stmt.parts

namespace StmtReads

variable (ih : StmtReads all fuel)
include ih

theorem body_succ {stops : List String} {acc : List Stmt}
    (hreads : Reads all base taken (BodyShows acc)) :
    Ensures all taken (parseBody (fuel + 1) stops acc) fun body taken' =>
      Reads all base taken' (BodyShows body) ∧ AtWord all taken' stops := by
  rw [parseBody]
  refine .take_bind (fun t ht => ?_) fun hend => ?_
  · split
    · rename_i hnone
      cases hnone
    · rename_i s hs
      cases hs
      refine .get_bind fun p _ => ih.body ((hreads.token ht (by simp)).mono fun n hn => ?_)
      simp [hn]
    · rename_i hs
      cases hs
      refine .get_bind fun p _ => ?_
      refine ((exprReads all fuel).expr (shut_mark (by simp)).opens).bind fun e taken₁ he => ?_
      refine .expect_bind fun u hu hn => ih.body ?_
      refine (((hreads.token ht (by simp)).trans he).test hn hu rfl).mono fun n hn => ?_
      rw [bodyShows_cons, Stmt.shows_iff]
      simpa [or_comm] using hn
    · rename_i hs
      cases hs
      have htag := hreads.token ht (by simp)
      refine .peek_bind fun r hr => ?_
      split
      · exact ensures_reject
      · rename_i u
        split
        · rename_i hstop
          refine .pure ⟨htag.mono fun n => bodyShows_reverse.mpr, fun v hv => ?_⟩
          rw [hv.unique (hr u rfl)]
          exact List.any_eq_true.mp hstop
        · refine ih.stmt.nested.bind fun s taken₁ hs => .expect_bind fun u hu hn => ih.body ?_
          refine ((htag.trans hs).test hn hu rfl).mono fun n hn => ?_
          simpa [or_comm] using hn
    · exact ensures_reject
  · refine .pure ⟨hreads.mono fun n => bodyShows_reverse.mpr, fun t ht => ?_⟩
    exact absurd hend ht.ne_end

/-- The body of a statement, from the end of its tag to the end of the tag that closes it. -/
theorem section_reads {β : Type} {stops : List String} {next : List Stmt → Parse β}
    {post : β → List Token → Prop} (hreads : Reads all base taken S)
    (hnext : ∀ body taken', Reads all base taken' (fun n => S n ∨ BodyShows body n) →
      AtWord all taken' stops → Ensures all taken' (next body) post) :
    Ensures all taken
      (do
        expect Token.isTagEnd
        let body ← parseBody fuel stops []
        next body)
      post := by
  refine .expect_bind fun t ht hn => ?_
  refine (ih.body .refl).bind fun body taken₁ hbody => hnext body taken₁ ?_ hbody.2
  exact (hreads.test hn ht rfl).trans hbody.1

theorem macroBody_succ {stop : String} (hreads : Reads all base taken S) :
    Ensures all taken (parseMacroBody (fuel + 1) stop) fun body taken' =>
      Reads all base taken' fun n => S n ∨ BodyShows body n := by
  rw [parseMacroBody]
  refine .expect_bind fun t ht hn => .get_bind fun p _ => .modify_bind (fun _ => rfl) ?_
  refine (ih.body .refl).bind fun body taken₁ hbody => .modify_bind (fun _ => rfl) ?_
  exact .word_reads ((hreads.test hn ht rfl).trans hbody.1) hbody.2 fun taken₂ h₂ => .pure h₂

theorem ifElse_succ {line : Nat} (h : Opens all start) :
    Ensures all start (parseIf (fuel + 1) line) fun s taken => Reads all start taken s.Shows := by
  rw [parseIf]
  refine ((exprReads all fuel).plainExpr h).bind fun test taken₁ htest => ?_
  refine ih.section_reads htest fun yes taken₂ hyes hword => ?_
  have hplain : ∀ {taken'}, Reads all start taken' (fun n => test.Shows n ∨ BodyShows yes n) →
      Ensures all taken' (pure (.ifElse line test yes []))
        fun (s : Stmt) taken'' => Reads all start taken'' s.Shows := by
    refine fun h => .pure (h.stmt fun n hn => ?_)
    simpa using hn
  refine .take_bind (fun u hu => ?_) fun _ => hplain hyes
  obtain ⟨w, -, hw⟩ := hword u hu
  have hyes' := hyes.test hu hw rfl
  split
  · refine ih.section_reads hyes' fun no taken₃ hno hword' => ?_
    refine .word_reads hno hword' fun taken₄ h₄ => .pure (h₄.stmt fun n hn => ?_)
    simpa [or_assoc] using hn
  · rename_i hs
    cases hs
    refine .get_bind fun p _ => (ih.ifElse (opens_word (w := "elif") rfl (by decide))).bind
      fun no taken₃ hno => .pure ((hyes'.trans hno).stmt fun n hn => ?_)
    simpa [or_assoc] using hn
  · exact hplain hyes'

/-! A statement goes on in one way behind the parts of it that may be left out. -/

theorem forLoop_rest {line : Nat} {target : Target} {items : Expr} {filter : Option (Nat × Expr)}
    (hreads : Reads all base taken fun n =>
      items.Shows n ∨ AnyShows (filter.map (·.2)).toList n) :
    Ensures all taken
      (do
        let recursive ← takeIf (·.isWord "recursive")
        expect Token.isTagEnd
        let body ← parseBody fuel ["endfor", "else"] []
        let orElse ← if ← takeIf (·.isWord "else") then do
            expect Token.isTagEnd
            parseBody fuel ["endfor"] []
          else pure []
        discard take
        return .forLoop line target items filter recursive body orElse)
      fun (s : Stmt) taken' => Reads all base taken' s.Shows := by
  refine (takeIf_reads hreads rfl).bind fun recursive taken₁ h₁ =>
    ih.section_reads h₁ fun body taken₂ h₂ hword₂ => ?_
  refine .takeIf_bind (fun v hv hn => ?_) (.return_bind ?_)
  · refine ih.section_reads (h₂.test hn hv rfl) fun orElse taken₃ h₃ hword₃ => ?_
    refine .word_reads h₃ hword₃ fun taken₄ h₄ => .pure (h₄.stmt fun n hn => ?_)
    simpa [or_assoc] using hn
  · refine .word_reads h₂ hword₂ fun taken₄ h₄ => .pure (h₄.stmt fun n hn => ?_)
    simpa [or_assoc] using hn

theorem capture_rest {line : Nat} {target : Target} {filter : Option Expr}
    (hreads : Reads all base taken (AnyShows filter.toList)) :
    Ensures all taken
      (do
        expect Token.isTagEnd
        let body ← parseBody fuel ["endset"] []
        discard take
        return .capture line target filter body)
      fun (s : Stmt) taken' => Reads all base taken' s.Shows := by
  refine ih.section_reads hreads fun body taken₁ h₁ hword => ?_
  refine .word_reads h₁ hword fun taken₂ h₂ => .pure (h₂.stmt fun n hn => ?_)
  simpa using hn

theorem block_rest {line : Nat} {name : String} {required : Bool}
    (hreads : Reads all base taken fun _ => False) :
    Ensures all taken
      (do
        expect Token.isTagEnd
        let body ← parseBody fuel ["endblock"] []
        discard take
        if required && !body.all Stmt.isBlank then reject
        match ← peek with
        | some (.ident trailing) =>
          if trailing ≠ name then reject
          else
            discard take
            return .block line name required body
        | _ => return .block line name required body)
      fun (s : Stmt) taken' => Reads all base taken' s.Shows := by
  refine ih.section_reads hreads fun body taken₁ h₁ hword => ?_
  refine .word_reads h₁ hword fun taken₂ h₂ => .ite .reject_bind ?_
  have hblock : Reads all base taken₂ (Stmt.block line name required body).Shows := by
    refine h₂.stmt fun n hn => ?_
    simpa using hn
  refine .peek_bind fun r hr => ?_
  split
  · refine .ite ensures_reject (.discard_bind (hr _ rfl) (.pure ?_))
    exact hblock.token (hr _ rfl) (by simp)
  · exact .pure hblock

theorem callBlock_rest {line : Nat} {params : List String} {defaults : List Expr}
    (h : Opens all taken) (hreads : Reads all base taken (AnyShows defaults)) :
    Ensures all taken
      (do
        let call ← parseExpr fuel
        if isCall call then
          let body ← parseMacroBody fuel "endcall"
          return .callBlock line call params defaults body
        else reject)
      fun (s : Stmt) taken' => Reads all base taken' s.Shows := by
  refine ((exprReads all fuel).expr h).bind fun call taken₁ hcall => .ite ?_ ensures_reject
  refine (ih.macroBody (hreads.trans hcall)).bind fun body taken₂ hbody =>
    .pure (hbody.stmt fun n hn => ?_)
  simpa [or_assoc, or_left_comm] using hn

theorem stmt_succ : Ensures all start (parseStmt (fuel + 1)) fun s taken =>
    Reads all start taken s.Shows := by
  have hes := exprReads all fuel
  have hts := targetsRead all fuel
  rw [parseStmt]
  refine .take_bind (fun t ht => ?_) fun _ => ensures_reject
  split
  · rename_i word hword
    cases hword
    have hstart : ∀ {S}, Reads all start (start ++ [.ident word]) S :=
      Reads.refl.token ht (by simp)
    have hopens : word ∈ groupWords → Opens all (start ++ [.ident word]) :=
      fun hw => opens_word (w := word) (by simp [Token.isWord]) hw
    refine .get_bind fun p _ => ?_
    dsimp only
    split
    · -- `for`
      refine (hts.targets (S := fun _ => False) (hopens (by decide)) hstart).bind
        fun target taken₁ h₁ => .expect_bind fun u hu hn => ?_
      refine (hes.plainExpr (opens_word hu (by decide))).bind fun items taken₂ hitems => ?_
      have h₂ := (h₁.test hn hu rfl).trans hitems
      refine .takeIf_bind (fun v hv hn => .get_bind fun q _ => ?_) (.return_bind ?_)
      · refine (hes.expr (opens_word hv (by decide))).bind fun e taken₃ he => .return_bind ?_
        exact ih.forLoop_rest (((h₂.test hn hv rfl).trans he).mono fun n hn => by simpa using hn)
      · exact ih.forLoop_rest (h₂.mono fun n hn => by simpa using hn)
    · exact (ih.ifElse (hopens (by decide))).mono fun s taken hs => hs.behind ht (by simp)
    · -- `with`
      refine (parseBindings_reads _ _ _ (fun _ => hopens (by decide)) hstart).bind
        fun bindings taken₁ h₁ => ih.section_reads h₁ fun body taken₂ h₂ hword => ?_
      refine .word_reads h₂ hword fun taken₃ h₃ => .pure (h₃.stmt fun n hn => ?_)
      simpa using hn
    · -- `set`
      refine (hts.targets (S := fun _ => False) (hopens (by decide)) hstart).bind
        fun target taken₁ h₁ => .peek_bind fun r _ => .ite ?_ ?_
      · refine .takeIf_bind (fun u hu hn => ?_) (.return_bind (ih.capture_rest ?_))
        · refine .map_bind (parseFilterChain_reads (P := False) _ _ _ ?_
            ((h₁.test hn hu rfl).mono fun _ => False.elim)) fun e taken₂ he => ih.capture_rest ?_
          · intro _ hlead
            have hpipe := hlead u (by simp)
            cases u <;> simp [Token.isPipe, Token.leadsCall] at hu hpipe
          · exact he.mono fun n hn => by simpa using hn
        · exact h₁.mono fun _ => False.elim
      · refine .expect_bind fun u hu hn => ?_
        refine (parseValues_reads (shut_test hu rfl).opens).bind fun e taken₂ he => .pure ?_
        refine ((h₁.test hn hu rfl).trans he).stmt fun n hn => ?_
        simpa using hn
    · -- `autoescape`
      refine (hes.expr (hopens (by decide))).bind fun e taken₁ he =>
        ih.section_reads (he.behind ht (by simp)) fun body taken₂ h₂ hword => ?_
      refine .word_reads h₂ hword fun taken₃ h₃ => .pure (h₃.stmt fun n hn => ?_)
      simpa using hn
    · -- `filter`
      refine (parseFilterChain_reads (P := True) _ _ _ (fun _ _ => trivial) hstart).bind
        fun e taken₁ he => ih.section_reads he fun body taken₂ h₂ hword => ?_
      refine .word_reads h₂ hword fun taken₃ h₃ => .pure (h₃.stmt fun n hn => ?_)
      simpa [or_assoc] using hn
    · -- `block`
      refine .get_bind fun q _ => .ite ensures_reject (.name_bind fun name hname => ?_)
      refine .get_bind fun q' _ => .ite ensures_reject (.modify_bind (fun _ => rfl) ?_)
      have hnamed : Reads all start _ fun _ => False := hstart.token hname (by simp)
      refine .discard_step_bind (takeIf_reads hnamed rfl) fun taken₁ h₁ => ?_
      exact (takeIf_reads h₁ rfl).bind fun required taken₂ h₂ => ih.block_rest h₂
    · -- `extends`
      refine (hes.expr (hopens (by decide))).bind fun e taken₁ he => .pure ?_
      refine (he.behind ht (by simp)).stmt fun n hn => ?_
      simpa using hn
    · -- `include`
      refine (hes.expr (hopens (by decide))).bind fun e taken₁ he => ?_
      refine (skipContextWords_reads (he.behind ht (by simp))).bind fun _ taken₂ h₂ => ?_
      have hall : ∀ {taken' ignoreMissing}, Reads all start taken' e.Shows →
          Reads all start taken' (Stmt.include p.last 0 e ignoreMissing).Shows := by
        refine fun h => h.stmt fun n hn => ?_
        simpa using hn
      refine .takeIf_bind (fun u hu hn => .expect_bind fun v hv hn' => ?_)
        (.return_bind (.pure (hall h₂)))
      refine (skipContextWords_reads ((h₂.test hn hu rfl).test hn' hv rfl)).bind
        fun _ taken₃ h₃ => ?_
      exact .return_bind (.pure (hall h₃))
    · -- `import`
      refine (hes.expr (hopens (by decide))).bind fun e taken₁ he => .expect_bind fun u hu hn => ?_
      refine (hes.expr (opens_word hu (by decide))).bind fun t taken₂ htarget => ?_
      have h₂ := ((he.behind ht (by simp)).test hn hu rfl).trans htarget
      split
      · rename_i target heq
        refine (skipContextWords_reads h₂).bind fun _ taken₃ h₃ => .pure (h₃.stmt fun n hn => ?_)
        simpa using hn.imp_right (target?_shows heq)
      · exact ensures_reject
    · -- `from`
      refine (hes.expr (hopens (by decide))).bind fun e taken₁ he => .expect_bind fun u hu hn => ?_
      refine (parseImportNames_reads _ _ _ ((he.behind ht (by simp)).test hn hu rfl)).bind
        fun names taken₂ h₂ => .pure (h₂.stmt fun n hn => ?_)
      simpa using hn
    · -- `macro`
      refine .name_bind fun name hname => .expect_bind fun u hu hn => ?_
      have hopen : Reads all start (start ++ [.ident "macro"] ++ [.ident name] ++ [u])
          fun n => n = name :=
        (hstart.token hname (by simp)).take hn fun _ n hn => .inr hn.leadsCall.1
      refine (parseParams_reads _ _ _ _ (fun _ => (shut_test hu rfl).opens)
        (hopen.mono fun _ => .inl)).bind fun r taken₁ hr => ?_
      refine (ih.macroBody hr.1).bind fun body taken₂ h₂ => .pure (h₂.stmt fun n hn => ?_)
      simpa [or_assoc] using hn
    · -- `call`
      refine .takeIf_bind (fun u hu hn => ?_) (.return_bind (ih.callBlock_rest (hopens (by decide))
        (hstart.mono fun _ => False.elim)))
      refine (parseParams_reads (S := fun _ => False) _ _ _ _ (fun _ => (shut_test hu rfl).opens)
        (hstart.group hn (hopens (by decide)))).bind fun r taken₁ hr => ?_
      exact ih.callBlock_rest hr.2.opens (hr.1.mono fun n hn => by simpa using hn)
    · -- `do`
      refine (hes.expr (hopens (by decide))).bind fun e taken₁ he => .ite (.pure ?_) ensures_reject
      refine (he.behind ht (by simp)).stmt fun n hn => ?_
      simpa using hn
    · exact ensures_reject
  · exact ensures_reject

end StmtReads

/-- **Every name in front of an opening parenthesis in a statement is shown.** -/
theorem stmtReads (all : List Token) (fuel : Nat) : StmtReads all fuel := by
  induction fuel with
  | zero =>
      constructor <;> intros <;>
        simp only [parseBody, parseStmt, parseIf, parseMacroBody] <;>
        exact ensures_reject
  | succ fuel ih =>
      exact {
        body := ih.body_succ
        stmt := ih.stmt_succ
        ifElse := ih.ifElse_succ
        macroBody := ih.macroBody_succ }

/--
**Every name in front of an opening parenthesis is shown by the tree, or is a word of the
language.**
-/
theorem fronts_shown {source : String} {body : List Stmt} (h : parse source = .ok body)
    {taken : List Token} {n : String} (hn : Faces (tokensOf source) taken n) :
    n ∈ groupWords ∨ BodyShows body n := by
  unfold parse at h
  simp only [Functor.map, Except.map] at h
  split at h
  · simp at h
  · rename_i r hrun
    simp only [Except.ok.injEq] at h
    subst h
    have hnil : Reads (tokensOf source) [] [] (BodyShows []) := .refl
    obtain ⟨taken', hat, hreads, hend⟩ :=
      (stmtReads (tokensOf source) _).body hnil _ _ _ (by rfl) hrun
    -- No word ends the template, so that all of the tokens have been taken.
    have hall : tokensOf source = taken' := by
      cases hrest : r.2.rest.map (·.token) with
      | nil => rw [hat, hrest, List.append_nil]
      | cons t rest =>
          obtain ⟨w, hw, -⟩ := hend t ⟨rest, by rw [hat, hrest]⟩
          simp at hw
    obtain ⟨before, rest, -, htokens, -⟩ := id hn
    refine hreads taken n hn (Nat.zero_le _) ?_
    rw [← hall, htokens]
    simp

end Folio.Template
