/-
What the parser makes of calls in statements.

Most of a statement is expressions, and what is known of those is `exprSpells`.  The functions
for statements call each other just as those for expressions do; `StmtSpells` says what all of
them ensure with some fuel, and `stmtSpells` is the induction.  A body that is read to the end
of the template leaves no token, and the last one it took has ended a tag or was text: that is
what makes sure that no tag is left open (`callees_spelled`).
-/
import Folio.Proofs.ExprCallees

namespace Folio.Template

open Parse

attribute [local simp] Target.callees targetsCallees Stmt.callees stmtsCallees

variable {all start taken : List Token} {fuel : Nat}

/-! ### Targets -/

theorem parseTargetAttrs_callees (fuel : Nat) : ∀ (taken : List Token) (line : Nat)
    (object : Expr) (target : Target), object.callees = [] → target.callees = [] →
    Ensures all taken (parseTargetAttrs fuel line object target) fun t _ => t.callees = [] := by
  induction fuel with
  | zero =>
      intro taken line object target _ _
      rw [parseTargetAttrs]
      exact ensures_reject
  | succ fuel ih =>
      intro taken line object target hobject htarget
      rw [parseTargetAttrs]
      refine .takeIf_bind (fun t _ _ => .identifier_bind fun name => ?_) (.pure htarget)
      exact ih _ _ _ _ (by simpa [Expr.callees] using hobject)
        (by simpa using hobject)

theorem parseTargetName_callees {dotted : Bool} :
    Ensures all taken (parseTargetName fuel dotted) fun t _ => t.callees = [] := by
  unfold parseTargetName
  refine .identifier_bind fun name => ?_
  split
  · exact ensures_reject
  · refine .get_bind fun p _ => ?_
    dsimp only
    split
    · exact parseTargetAttrs_callees _ _ _ _ _ (by simp [Expr.callees]) (by simp)
    · exact .pure (by simp)

/-- What the functions for targets ensure: there are no calls in them. -/
structure TargetsCallNothing (all : List Token) (fuel : Nat) : Prop where
  targets : ∀ {taken dotted},
    Ensures all taken (parseTargets fuel dotted) fun t _ => t.callees = []
  moreTargets : ∀ {taken dotted items isList}, targetsCallees items = [] →
    Ensures all taken (parseMoreTargets fuel dotted items isList) fun r _ =>
      targetsCallees r.1 = []

theorem Parse.Ensures.separator_bind {β : Type} {c : Prop} [Decidable c] {next : PUnit → Parse β}
    {post : β → List Token → Prop} (h : ∀ taken', Ensures all taken' (next ⟨⟩) post) :
    Ensures all taken (if c then expect Token.isComma >>= next else next ⟨⟩) post :=
  .ite (.expect_bind fun _ _ _ => h _) (h _)

theorem TargetsCallNothing.target_bind {β : Type} {dotted : Bool} {next : Target → Parse β}
    {post : β → List Token → Prop} (h : TargetsCallNothing all fuel)
    (hnext : ∀ t taken', t.callees = [] → Ensures all taken' (next t) post) :
    Ensures all taken
      (do
        if ← takeIf Token.isParenOpen then
          let target ← parseTargets fuel dotted
          expect Token.isParenClose
          let target ← pure target
          next target
        else
          let target ← parseTargetName fuel dotted
          next target)
      post := by
  refine .takeIf_bind (fun t _ _ => ?_) ?_
  · refine h.targets.bind fun target taken₁ htarget => .expect_bind fun u _ _ => ?_
    exact .return_bind (hnext target _ htarget)
  · exact parseTargetName_callees.bind fun target taken₁ htarget => hnext target _ htarget

theorem targetsCallNothing (all : List Token) (fuel : Nat) : TargetsCallNothing all fuel := by
  induction fuel with
  | zero =>
      constructor <;> intros <;> simp only [parseTargets, parseMoreTargets] <;>
        exact ensures_reject
  | succ fuel ih =>
      constructor
      · intro taken dotted
        rw [parseTargets]
        refine .nextLine_bind fun line => ?_
        refine (ih.moreTargets (by simp)).bind fun r taken' hr => ?_
        obtain ⟨items, isList⟩ := r
        dsimp only
        split
        · exact .pure (by simpa using hr)
        · exact .pure (by simpa using hr)
      · intro taken dotted items isList hitems
        rw [parseMoreTargets]
        refine .separator_bind fun taken₁ => .peek_bind fun r _ => .ite (.pure hitems) ?_
        refine ih.target_bind fun item taken₂ hitem => .peek_bind fun r₁ _ => ?_
        have hitems' : targetsCallees (items ++ [item]) = [] := by
          simp [hitems, hitem]
        exact .ite (ih.moreTargets hitems') (.pure hitems')

/-! ### The parts of statements -/

theorem parseBindings_spells (fuel : Nat) : ∀ (taken : List Token)
    (bindings : List (Target × Expr)), Spells all (bindingsCallees bindings) →
    Ensures all taken (parseBindings fuel bindings) fun bindings' _ =>
      Spells all (bindingsCallees bindings') := by
  induction fuel with
  | zero =>
      intro taken bindings _
      rw [parseBindings]
      exact ensures_reject
  | succ fuel ih =>
      intro taken bindings hbindings
      rw [parseBindings]
      refine .peek_bind fun r _ => .ite (.pure hbindings) (.separator_bind fun taken₁ => ?_)
      refine (targetsCallNothing all fuel).target_bind fun target taken₂ htarget => ?_
      refine .expect_bind fun t ht _ => ?_
      have hassign : Ready (taken₂ ++ [t]) := ready_concat _ (Token.leadsOperand_of_test ht rfl)
      refine ((exprSpells all fuel).expr hassign).bind fun value taken₃ hvalue => ih _ _ ?_
      simpa [bindingsCallees, htarget, hvalue.spelled] using hbindings

theorem parseFilterChain_spells (fuel : Nat) : ∀ (taken : List Token) (chain : Option Expr),
    Spells all (optionCallees chain) →
    Ensures all taken (parseFilterChain fuel chain) fun e _ => Spells all e.callees := by
  induction fuel with
  | zero =>
      intro taken chain _
      rw [parseFilterChain]
      exact ensures_reject
  | succ fuel ih =>
      intro taken chain hchain
      unfold parseFilterChain
      refine .peek_bind fun r _ => .ite ?_ ?_
      · split
        · exact .pure hchain
        · exact ensures_reject
      · have hfilter : ∀ {taken'}, Ensures all taken'
            (do
              let name ← parseDottedName fuel
              let line := (← get).last
              let args ← parseOptionalArgs fuel
              parseFilterChain fuel (some (.filter line name chain args.args args.named)))
            fun e _ => Spells all e.callees := by
          intro taken'
          refine parseDottedName_ready.bind fun name taken₁ _ => .get_bind fun p _ => ?_
          refine (exprSpells all fuel).optionalArgs.bind fun args taken₂ hargs => ih _ _ ?_
          simp [optionCallees, Expr.callees, hchain, hargs.1, hargs.2]
        exact .ite (.expect_bind fun _ _ _ => hfilter) hfilter

theorem skipContextWords_ensures : Ensures all taken skipContextWords fun _ _ => True := by
  unfold skipContextWords
  refine takeIf_ensures.bind fun b taken₁ _ => .ite ?_ (.pure trivial)
  rw [← bind_pure (expect _)]
  exact .expect_bind fun _ _ _ => .pure trivial

theorem parseImportNames_callees (fuel : Nat) : ∀ (taken : List Token)
    (names : List (Target × Option Target)), importsCallees names = [] →
    Ensures all taken (parseImportNames fuel names) fun names' _ =>
      importsCallees names' = [] := by
  induction fuel with
  | zero =>
      intro taken names _
      rw [parseImportNames]
      exact ensures_reject
  | succ fuel ih =>
      intro taken names hnames
      have hadd : ∀ {name localName}, name.callees = [] →
          (localName.map Target.callees).getD [] = [] →
          importsCallees (names ++ [(name, localName)]) = [] := by
        intro name localName hname hlocal
        rw [importsCallees, List.flatMap_append, ← importsCallees, hnames]
        simp [hname, hlocal]
      rw [parseImportNames]
      refine .peek_bind fun r _ => ?_
      dsimp only
      -- Whether the list is at its end is decided in four places, and then goes on as here.
      split
      rotate_left
      refine .ite (skipContextWords_ensures.bind fun _ _ _ => ?_) ?_
      all_goals
        refine .return_bind (.ite (.pure hnames) (.separator_bind fun taken₁ => ?_))
        refine .peek_bind fun r₁ _ => .ite (.pure hnames) ?_
        refine parseTargetName_callees.bind fun name taken₂ hname => ?_
        refine .takeIf_bind (fun t _ _ => ?_) (.return_bind (ih _ _ (hadd hname rfl)))
        exact .map_bind parseTargetName_callees fun localName taken₃ hlocal =>
          ih _ _ (hadd hname hlocal)

theorem parseParams_spells (fuel : Nat) : ∀ (taken : List Token) (params : List String)
    (defaults : List Expr), (params = [] → Ready taken) → Spells all (listCallees defaults) →
    Ensures all taken (parseParams fuel params defaults) fun r taken' =>
      Spells all (listCallees r.2) ∧ Ready taken' := by
  induction fuel with
  | zero =>
      intro taken params defaults _ _
      rw [parseParams]
      exact ensures_reject
  | succ fuel ih =>
      intro taken params defaults h hdefaults
      rw [parseParams]
      refine .takeIf_bind (fun t ht _ => .pure ⟨hdefaults, ?_⟩) ?_
      · exact ready_concat _ (Token.leadsOperand_of_test ht rfl)
      rw [if_neg Bool.false_ne_true]
      refine .comma_bind (fun hempty => h (List.isEmpty_iff.mp hempty)) fun taken₁ h₁ => ?_
      refine .close_bind (fun _ h => Token.leadsOperand_of_test h rfl) h₁
        (fun _ h₂ => ⟨hdefaults, h₂⟩) fun taken₂ _ => ?_
      refine .identifier_bind fun name => .ite ensures_reject ?_
      refine .takeIf_bind (fun t ht _ => ?_) ?_
      · have hassign : Ready (taken₂ ++ [.ident name] ++ [t]) :=
          ready_concat _ (Token.leadsOperand_of_test ht rfl)
        refine ((exprSpells all fuel).expr hassign).bind fun value taken₃ hvalue => ?_
        refine ih _ _ _ (by simp) ?_
        simp [listCallees, hdefaults, hvalue.spelled]
      · rw [if_neg Bool.false_ne_true]
        refine .ite (ih _ _ _ (by simp) hdefaults) ?_
        exact .expect_bind fun _ _ _ => ensures_reject

theorem parseMoreValues_spells (fuel : Nat) : ∀ (taken : List Token) (values : List Expr),
    Spells all (listCallees values) →
    Ensures all taken (parseMoreValues fuel values) fun values' _ =>
      Spells all (listCallees values') := by
  induction fuel with
  | zero =>
      intro taken values _
      rw [parseMoreValues]
      exact ensures_reject
  | succ fuel ih =>
      intro taken values hvalues
      rw [parseMoreValues]
      refine .takeIf_bind (fun t ht _ => .peek_bind fun r _ => ?_) (.pure hvalues)
      have hcomma : Ready (taken ++ [t]) := ready_concat _ (Token.leadsOperand_of_test ht rfl)
      refine .ite (.pure hvalues) ?_
      refine ((exprSpells all fuel).expr hcomma).bind fun value taken₁ hvalue => ih _ _ ?_
      simp [listCallees, hvalues, hvalue.spelled]

theorem parseValues_spells (h : Ready taken) :
    Ensures all taken (parseValues fuel) fun e _ => Spells all e.callees := by
  unfold parseValues
  refine .nextLine_bind fun line => ((exprSpells all fuel).expr h).bind fun e taken₁ he => ?_
  refine .peek_bind fun r _ => .ite ?_ (.pure he.spelled)
  have hlist : Spells all (listCallees [e]) := by simpa [listCallees] using he.spelled
  exact (parseMoreValues_spells _ _ _ hlist).bind fun values taken₂ hvalues => .pure hvalues

/-! ### Statements -/

/-- Whether a token may be the last one before text or a tag. -/
def Token.endsSection : Token → Bool
  | .text _ | .outputEnd | .tagEnd => true
  | _ => false

/-- Behind these tokens the parser is outside of tags. -/
def Outside (taken : List Token) : Prop := ∀ t, taken.getLast? = some t → t.endsSection = true

theorem outside_concat {t : Token} (taken : List Token) (h : t.endsSection = true) :
    Outside (taken ++ [t]) := by
  simpa [Outside] using h

theorem Token.endsSection_of_isTagEnd {t : Token} (h : t.isTagEnd = true) :
    t.endsSection = true := by
  cases t <;> first | rfl | simp [Token.isTagEnd] at h

theorem Token.endsSection_of_isOutputEnd {t : Token} (h : t.isOutputEnd = true) :
    t.endsSection = true := by
  cases t <;> first | rfl | simp [Token.isOutputEnd] at h

/-- What the functions for statements ensure. -/
structure StmtSpells (all : List Token) (fuel : Nat) : Prop where
  body : ∀ {taken stops acc}, Outside taken → Spells all (stmtsCallees acc) →
    Ensures all taken (parseBody fuel stops acc) fun body taken' =>
      Spells all (stmtsCallees body) ∧ (stops = [] → taken' = all ∧ Outside all)
  stmt : ∀ {taken}, Ensures all taken (parseStmt fuel) fun s _ => Spells all s.callees
  ifElse : ∀ {taken line}, Ready taken →
    Ensures all taken (parseIf fuel line) fun s _ => Spells all s.callees
  macroBody : ∀ {taken stop},
    Ensures all taken (parseMacroBody fuel stop) fun body _ => Spells all (stmtsCallees body)

namespace StmtSpells

variable (ih : StmtSpells all fuel)
include ih

theorem body_succ {stops : List String} {acc : List Stmt} (h : Outside taken)
    (hacc : Spells all (stmtsCallees acc)) :
    Ensures all taken (parseBody (fuel + 1) stops acc) fun body taken' =>
      Spells all (stmtsCallees body) ∧ (stops = [] → taken' = all ∧ Outside all) := by
  have hreverse : Spells all (stmtsCallees acc.reverse) := fun n hn =>
    hacc n (stmtsCallees_reverse.mp hn)
  rw [parseBody]
  refine .take_bind (fun t _ => ?_) fun hend => ?_
  · split
    · rename_i hnone
      cases hnone
    · rename_i s hs
      cases hs
      refine .get_bind fun p _ => ih.body (outside_concat _ rfl) ?_
      simpa using hacc
    · rename_i hs
      cases hs
      refine .get_bind fun p _ => ?_
      have hready : Ready (taken ++ [.outputStart]) := ready_concat _ rfl
      refine ((exprSpells all fuel).expr hready).bind fun e taken₁ he => ?_
      refine .expect_bind fun u hu _ => ?_
      refine ih.body (outside_concat _ (Token.endsSection_of_isOutputEnd hu)) ?_
      simp [he.spelled, hacc]
    · refine .peek_bind fun r _ => ?_
      split
      · exact ensures_reject
      · split
        · rename_i hstop
          refine .pure ⟨hreverse, fun hnone => ?_⟩
          rw [hnone] at hstop
          simp at hstop
        · refine ih.stmt.nested.bind fun s taken₁ hs => .expect_bind fun u hu _ => ?_
          refine ih.body (outside_concat _ (Token.endsSection_of_isTagEnd hu)) ?_
          simp [hs, hacc]
    · exact ensures_reject
  · exact .pure ⟨hreverse, fun _ => ⟨hend.symm, hend ▸ h⟩⟩

/-- The body of a statement, from the end of its tag to the end of the tag that closes it. -/
theorem section_bind {β : Type} {stops : List String} {next : List Stmt → Parse β}
    {post : β → List Token → Prop}
    (hnext : ∀ body taken', Spells all (stmtsCallees body) →
      Ensures all taken' (next body) post) :
    Ensures all taken
      (do
        expect Token.isTagEnd
        let body ← parseBody fuel stops []
        next body)
      post := by
  refine .expect_bind fun t ht _ => ?_
  have hout : Outside (taken ++ [t]) := outside_concat _ (Token.endsSection_of_isTagEnd ht)
  exact (ih.body hout (by simp)).bind fun body taken₁ hbody =>
    hnext body taken₁ hbody.1

theorem macroBody_succ {stop : String} :
    Ensures all taken (parseMacroBody (fuel + 1) stop) fun body _ =>
      Spells all (stmtsCallees body) := by
  rw [parseMacroBody]
  refine .expect_bind fun t ht _ => .get_bind fun p _ => .modify_bind (fun _ => rfl) ?_
  have hout : Outside (taken ++ [t]) := outside_concat _ (Token.endsSection_of_isTagEnd ht)
  refine (ih.body hout (by simp)).bind fun body taken₁ hbody => ?_
  refine .modify_bind (fun _ => rfl) ?_
  exact .discard_any_bind take_ensures fun _ => .pure hbody.1

theorem ifElse_succ {line : Nat} (h : Ready taken) :
    Ensures all taken (parseIf (fuel + 1) line) fun s _ => Spells all s.callees := by
  rw [parseIf]
  refine ((exprSpells all fuel).plainExpr h).bind fun test taken₁ htest => ?_
  refine .expect_bind fun t ht _ => ?_
  have hout : Outside (taken₁ ++ [t]) := outside_concat _ (Token.endsSection_of_isTagEnd ht)
  refine (ih.body hout (by simp)).bind fun yes taken₂ hyes => ?_
  have hplain : ∀ {taken'}, Ensures all taken' (pure (.ifElse line test yes []))
      fun (s : Stmt) _ => Spells all s.callees := by
    exact .pure (by simp [htest.spelled, hyes.1])
  refine .take_bind (fun u _ => ?_) fun _ => hplain
  split
  · refine .expect_bind fun v hv _ => ?_
    have hout' := outside_concat (taken₂ ++ [u]) (Token.endsSection_of_isTagEnd hv)
    refine (ih.body hout' (by simp)).bind fun no taken₃ hno => ?_
    have hall : Spells all (Stmt.ifElse line test yes no).callees := by
      simp [htest.spelled, hyes.1, hno.1]
    exact .discard_any_bind take_ensures fun _ => .pure hall
  · rename_i hword
    cases hword
    refine .get_bind fun p _ => (ih.ifElse (ready_concat _ rfl)).bind fun no taken₃ hno => ?_
    exact .pure (by simp [htest.spelled, hyes.1, hno])
  · exact hplain

/-! A statement goes on in one way behind the parts of it that may be left out. -/

theorem forLoop_rest {line : Nat} {target : Target} {items : Expr} {filter : Option (Nat × Expr)}
    (htarget : target.callees = []) (hitems : Spells all items.callees)
    (hfilter : Spells all (optionCallees (filter.map (·.2)))) :
    Ensures all taken
      (do
        let recursive ← takeIf (·.isWord "recursive")
        expect Token.isTagEnd
        let body ← parseBody fuel ["endfor", "else"] []
        let orElse ← if ← takeIf (·.isWord "else") then do
            expect Token.isTagEnd
            parseBody fuel ["endfor"] []
          else pure []
        discard take
        return .forLoop line target items filter recursive body orElse)
      fun (s : Stmt) _ => Spells all s.callees := by
  refine takeIf_ensures.bind fun recursive taken₁ _ => ih.section_bind fun body taken₂ hbody => ?_
  have hall : ∀ orElse, Spells all (stmtsCallees orElse) →
      Spells all (Stmt.forLoop line target items filter recursive body orElse).callees := by
    intro orElse horElse
    simp [htarget, hitems, hfilter, hbody, horElse]
  refine .takeIf_bind (fun v _ _ => ?_) ?_
  · refine ih.section_bind fun orElse taken₃ horElse => ?_
    exact .discard_any_bind take_ensures fun _ => .pure (hall orElse horElse)
  · have hnone := hall [] (by simp)
    exact .return_bind (.discard_any_bind take_ensures fun _ => .pure hnone)

theorem capture_rest {line : Nat} {target : Target} {filter : Option Expr}
    (htarget : target.callees = []) (hfilter : Spells all (optionCallees filter)) :
    Ensures all taken
      (do
        expect Token.isTagEnd
        let body ← parseBody fuel ["endset"] []
        discard take
        return .capture line target filter body)
      fun (s : Stmt) _ => Spells all s.callees := by
  refine ih.section_bind fun body taken₁ hbody => ?_
  refine .discard_any_bind take_ensures fun _ => .pure ?_
  simp [htarget, hfilter, hbody]

theorem block_rest {line : Nat} {name : String} {required : Bool} :
    Ensures all taken
      (do
        expect Token.isTagEnd
        let body ← parseBody fuel ["endblock"] []
        discard take
        if required && !body.all Stmt.isBlank then reject
        match ← peek with
        | some (.ident trailing) =>
          if trailing ≠ name then reject
          else
            discard take
            return .block line name required body
        | _ => return .block line name required body)
      fun (s : Stmt) _ => Spells all s.callees := by
  refine ih.section_bind fun body taken₁ hbody => ?_
  refine .discard_any_bind take_ensures fun taken₂ => .ite .reject_bind ?_
  refine .peek_bind fun r hr => ?_
  split
  · exact .ite ensures_reject (.discard_bind (hr _ rfl) (.pure hbody))
  · exact .pure hbody

theorem callBlock_rest {line : Nat} {params : List String} {defaults : List Expr}
    (hdefaults : Spells all (listCallees defaults)) (h : Ready taken) :
    Ensures all taken
      (do
        let call ← parseExpr fuel
        if isCall call then
          let body ← parseMacroBody fuel "endcall"
          return .callBlock line call params defaults body
        else reject)
      fun (s : Stmt) _ => Spells all s.callees := by
  refine ((exprSpells all fuel).expr h).bind fun call taken₁ hcall => .ite ?_ ensures_reject
  refine ih.macroBody.bind fun body taken₂ hbody => .pure ?_
  simp [hcall.spelled, hdefaults, hbody]

theorem stmt_succ : Ensures all taken (parseStmt (fuel + 1)) fun s _ => Spells all s.callees := by
  have hes := exprSpells all fuel
  have hts := targetsCallNothing all fuel
  have hnone : Spells all (optionCallees none) := by simp [optionCallees]
  have hempty : Spells all (listCallees []) := by simp [listCallees]
  rw [parseStmt]
  refine .take_bind (fun t _ => ?_) fun _ => ensures_reject
  split
  · rename_i word hword
    cases hword
    have hready : Ready (taken ++ [.ident word]) := ready_concat _ rfl
    refine .get_bind fun p _ => ?_
    dsimp only
    split
    · -- `for`
      refine hts.targets.bind fun target taken₁ htarget => .expect_bind fun u hu _ => ?_
      have hin : Ready (taken₁ ++ [u]) := ready_concat _ (Token.leadsOperand_of_test hu rfl)
      refine (hes.plainExpr hin).bind fun items taken₂ hitems => ?_
      refine .takeIf_bind (fun v hv _ => .get_bind fun q _ => ?_) ?_
      · have hif : Ready (taken₂ ++ [v]) := ready_concat _ (Token.leadsOperand_of_test hv rfl)
        refine (hes.expr hif).bind fun e taken₃ he => .return_bind ?_
        exact ih.forLoop_rest htarget hitems.spelled he.spelled
      · exact .return_bind (ih.forLoop_rest htarget hitems.spelled hnone)
    · exact ih.ifElse hready
    · -- `with`
      refine (parseBindings_spells _ _ _ (by simp [bindingsCallees])).bind
        fun bindings taken₁ hbindings => ih.section_bind fun body taken₂ hbody => ?_
      refine .discard_any_bind take_ensures fun _ => .pure ?_
      simp [hbindings, hbody]
    · -- `set`
      refine hts.targets.bind fun target taken₁ htarget => .peek_bind fun r _ => .ite ?_ ?_
      · refine .takeIf_bind (fun u _ _ => ?_) (.return_bind (ih.capture_rest htarget hnone))
        exact .map_bind (parseFilterChain_spells _ _ _ hnone) fun e taken₂ he =>
          ih.capture_rest htarget he
      · refine .expect_bind fun u hu _ => ?_
        have hassign : Ready (taken₁ ++ [u]) :=
          ready_concat _ (Token.leadsOperand_of_test hu rfl)
        refine (parseValues_spells hassign).bind fun e taken₂ he => .pure ?_
        simp [htarget, he]
    · -- `autoescape`
      refine (hes.expr hready).bind fun e taken₁ he => ih.section_bind fun body taken₂ hbody => ?_
      refine .discard_any_bind take_ensures fun _ => .pure ?_
      simp [he.spelled, hbody]
    · -- `filter`
      refine (parseFilterChain_spells _ _ _ hnone).bind fun e taken₁ he => ?_
      refine ih.section_bind fun body taken₂ hbody => ?_
      refine .discard_any_bind take_ensures fun _ => .pure ?_
      simp [he, hbody]
    · -- `block`
      refine .get_bind fun q _ => .ite ensures_reject (.identifier_bind fun name => ?_)
      refine .get_bind fun q' _ => .ite ensures_reject (.modify_bind (fun _ => rfl) ?_)
      refine .discard_any_bind takeIf_ensures fun taken₁ => ?_
      exact takeIf_ensures.bind fun required taken₂ _ => ih.block_rest
    · -- `extends`
      exact (hes.expr hready).bind fun e taken₁ he => .pure he.spelled
    · -- `include`
      refine (hes.expr hready).bind fun e taken₁ he => ?_
      refine skipContextWords_ensures.bind fun _ taken₂ _ => ?_
      refine .takeIf_bind (fun u _ _ => .expect_bind fun v _ _ => ?_)
        (.return_bind (.pure he.spelled))
      exact skipContextWords_ensures.bind fun _ taken₃ _ => .return_bind (.pure he.spelled)
    · -- `import`
      refine (hes.expr hready).bind fun e taken₁ he => .expect_bind fun u hu _ => ?_
      have has : Ready (taken₁ ++ [u]) := ready_concat _ (Token.leadsOperand_of_test hu rfl)
      refine (hes.expr has).bind fun t taken₂ ht => ?_
      split
      · rename_i target htarget
        refine skipContextWords_ensures.bind fun _ taken₃ _ => .pure ?_
        have hcallees : Spells all target.callees := fun n hn =>
          ht.spelled n (target?_callees htarget hn)
        simp [he.spelled, hcallees]
      · exact ensures_reject
    · -- `from`
      refine (hes.expr hready).bind fun e taken₁ he => .expect_bind fun u _ _ => ?_
      refine (parseImportNames_callees _ _ _ rfl).bind fun names taken₂ hnames => .pure ?_
      simp [he.spelled, hnames]
    · -- `macro`
      refine .identifier_bind fun name => .expect_bind fun u hu _ => ?_
      have hopen : Ready (taken ++ [.ident "macro"] ++ [.ident name] ++ [u]) :=
        ready_concat _ (Token.leadsOperand_of_test hu rfl)
      refine (parseParams_spells _ _ _ _ (fun _ => hopen) hempty).bind fun r taken₁ hr => ?_
      refine ih.macroBody.bind fun body taken₂ hbody => .pure ?_
      simp [hr.1, hbody]
    · -- `call`
      refine .takeIf_bind (fun u hu _ => ?_) (.return_bind (ih.callBlock_rest hempty hready))
      have hopen : Ready (taken ++ [.ident "call"] ++ [u]) :=
        ready_concat _ (Token.leadsOperand_of_test hu rfl)
      exact (parseParams_spells _ _ _ _ (fun _ => hopen) hempty).bind fun r taken₁ hr =>
        ih.callBlock_rest hr.1 hr.2
    · -- `do`
      exact (hes.expr hready).bind fun e taken₁ he => .ite (.pure he.spelled) ensures_reject
    · exact ensures_reject
  · exact ensures_reject

end StmtSpells

/-- **Every callee of a statement is spelled as a call.** -/
theorem stmtSpells (all : List Token) (fuel : Nat) : StmtSpells all fuel := by
  induction fuel with
  | zero =>
      constructor <;> intros <;>
        simp only [parseBody, parseStmt, parseIf, parseMacroBody] <;>
        exact ensures_reject
  | succ fuel ih =>
      exact {
        body := ih.body_succ
        stmt := ih.stmt_succ
        ifElse := ih.ifElse_succ
        macroBody := ih.macroBody_succ }

/-- The tokens without their lines. -/
def Tokens.kinds (tokens : Tokens) : List Token := tokens.list.map (·.token)

/-- The tokens of a source, without their lines. -/
def tokensOf (source : String) : List Token := (Tokens.ofSource source).kinds

/--
**Every bare name that a template calls is spelled as a call.**

For every callee there is a place in the tokens where the name stands, possibly in
parentheses, with an opening parenthesis behind it and neither a point nor a pipe nor a number
before it.  And the tokens end outside of tags.
-/
theorem callees_spelled {source : String} {body : List Stmt} (h : parse source = .ok body) :
    Spells (tokensOf source) (stmtsCallees body) ∧ Outside (tokensOf source) := by
  unfold parse at h
  simp only [Functor.map, Except.map] at h
  split at h
  · simp at h
  · rename_i r hrun
    simp only [Except.ok.injEq] at h
    subst h
    have hout : Outside [] := by simp [Outside]
    have hnil : Spells (tokensOf source) (stmtsCallees []) := by simp
    obtain ⟨taken', -, hspells, hend⟩ :=
      (stmtSpells (tokensOf source) _).body hout hnil _ _ _ (by rfl) hrun
    exact ⟨hspells, (hend rfl).2⟩

end Folio.Template
