/-
What the parser makes of calls in expressions.

The functions for expressions call each other, so what all of them ensure with some fuel is
one structure, `ExprSpells`.  There is a lemma for each function that takes it to one unit of
fuel more, and `exprSpells` is the induction.
-/
import Folio.Proofs.Callees

namespace Folio.Template

open Parse

attribute [local simp] Expr.callees optionCallees linksCallees listCallees argsCallees namedCallees
  entriesCallees

variable {all start taken : List Token} {fuel : Nat}

/-! ### Expressions -/

/-- What the functions for expressions ensure. -/
structure ExprSpells (all : List Token) (fuel : Nat) : Prop where
  expr : ∀ {start}, Ready start → Ensures all start (parseExpr fuel) (Clear all start)
  plainExpr : ∀ {start}, Ready start → Ensures all start (parsePlainExpr fuel) (Clear all start)
  conditions : ∀ {start taken line e}, Clear all start e taken →
    Ensures all taken (parseConditions fuel line e) (Clear all start)
  level : ∀ {start} level, Ready start →
    Ensures all start (parseLevel fuel level) (Clear all start)
  operators : ∀ {start taken level line e}, Clear all start e taken →
    Ensures all taken (parseOperators fuel level line e) (Clear all start)
  comparisons : ∀ {taken links}, Spells all (linksCallees links) →
    Ensures all taken (parseComparisons fuel links) fun links' taken' =>
      Spells all (linksCallees links') ∧ (links' = [] → links = [] ∧ taken' = taken)
  negation : ∀ {start}, Ready start → Ensures all start (parseNegation fuel) (Clear all start)
  primary : ∀ {start}, Ready start → Ensures all start (parsePrimary fuel) (Clear all start)
  items : ∀ {taken close items}, (∀ t, close t = true → t.leadsOperand = true) →
    (items = [] → Ready taken) →
    Spells all (listCallees items) → Ensures all taken (parseItems fuel close items) fun items' _ =>
      Spells all (listCallees items')
  entries : ∀ {taken entries}, (entries = [] → Ready taken) →
    Spells all (entriesCallees entries) →
    Ensures all taken (parseEntries fuel entries) fun entries' _ =>
      Spells all (entriesCallees entries')
  suffixes : ∀ {start taken line e}, Ready start → Clear all start e taken →
    Ensures all taken (parsePostfix fuel line e) (Clear all start)
  filters : ∀ {start taken e}, Clear all start e taken →
    Ensures all taken (parseFilters fuel e) (Clear all start)
  optionalArgs : ∀ {taken}, Ensures all taken (parseOptionalArgs fuel) fun a _ => a.Clear all
  args : ∀ {taken}, Ensures all taken (parseArgs fuel) fun a _ => a.Clear all
  moreArgs : ∀ {taken a}, (a.isEmpty = true → Ready taken) → a.Clear all →
    Ensures all taken (parseMoreArgs fuel a) fun a' _ => a'.Clear all

section Tests

variable {t : Token}

/-- An operand may stand behind whatever passes a test that the exceptions fail. -/
theorem Token.leadsOperand_of_test {p : Token → Bool} (h : p t = true)
    (hp : (p .dot, p .pipe, fun n => p (.int n), fun x => p (.float x)) =
      (false, false, fun _ => false, fun _ => false)) : t.leadsOperand = true := by
  simp only [Prod.mk.injEq] at hp
  obtain ⟨dot, pipe, int, float⟩ := hp
  cases t with
  | dot => cases dot.symm.trans h
  | pipe => cases pipe.symm.trans h
  | int n => cases (congrFun int n).symm.trans h
  | float x => cases (congrFun float x).symm.trans h
  | _ => rfl

theorem Token.leadsOperand_of_binaryOpAt {level : Nat} {op : BinaryOp}
    (h : binaryOpAt level t = some op) : t.leadsOperand = true := by
  unfold binaryOpAt at h
  split at h <;> first | rfl | simp at h

theorem Token.leadsOperand_of_comparisonOp {op : BinaryOp} (h : comparisonOp t = some op) :
    t.leadsOperand = true := by
  unfold comparisonOp at h
  split at h <;> first | rfl | simp at h

end Tests

/-- A comma is asked for unless something is the first of its kind. -/
theorem Parse.Ensures.comma_bind {β : Type} {first : Bool} {next : PUnit → Parse β}
    {post : β → List Token → Prop} (hfirst : first = true → Ready taken)
    (h : ∀ taken', Ready taken' → Ensures all taken' (next ⟨⟩) post) :
    Ensures all taken (if (!first) = true then expect Token.isComma >>= next else next ⟨⟩)
      post := by
  cases first with
  | true => exact h taken (hfirst rfl)
  | false =>
      refine .expect_bind fun t ht _ => h _ ?_
      exact ready_concat _ (Token.leadsOperand_of_test ht rfl)

theorem Parse.Ensures.close_bind {β : Type} {close : Token → Bool} {first : Bool} {b : β}
    {next : Parse β} {post : β → List Token → Prop}
    (hclose : ∀ t, close t = true → t.leadsOperand = true) (h : Ready taken)
    (hend : ∀ taken', Ready taken' → post b taken')
    (hnext : ∀ taken', Ready taken' → Ensures all taken' next post) :
    Ensures all taken
      (do if !first && (← takeIf close) then return b else next)
      post := by
  refine .takeIf_bind (fun t ht _ => ?_) (.ite (.pure (hend _ h)) (hnext _ h))
  have hready : Ready (taken ++ [t]) := ready_concat _ (hclose t ht)
  exact .ite (.pure (hend _ hready)) (hnext _ hready)

theorem parseMoreName_ready (fuel : Nat) : ∀ (taken : List Token) (name : String),
    Ready taken → Ensures all taken (parseMoreName fuel name) fun _ taken' => Ready taken' := by
  induction fuel with
  | zero => intro taken name _; exact ensures_reject
  | succ fuel ih =>
      intro taken name htaken
      rw [parseMoreName]
      refine .takeIf_bind (fun t _ _ => ?_) (.pure htaken)
      exact .identifier_bind fun part => ih _ _ (ready_concat _ rfl)

theorem parseDottedName_ready : Ensures all taken (parseDottedName fuel) fun _ taken' =>
    Ready taken' :=
  .identifier_bind fun _ => parseMoreName_ready _ _ _ (ready_concat _ rfl)

theorem parseMoreStrings_ensures (fuel : Nat) : ∀ (taken : List Token) (s : String),
    Ensures all taken (parseMoreStrings fuel s) fun _ _ => True := by
  induction fuel with
  | zero => intro taken s; exact ensures_reject
  | succ fuel ih =>
      intro taken s
      rw [parseMoreStrings]
      refine .settle_bind (.peek_bind fun r hr => ?_)
      split
      · exact .discard_bind (hr _ rfl) (ih _ _)
      · exact .pure trivial

namespace ExprSpells

variable (ih : ExprSpells all fuel)
include ih

theorem expr_succ (h : Ready start) :
    Ensures all start (parseExpr (fuel + 1)) (Clear all start) := by
  rw [parseExpr]
  refine .nested (.get_bind fun p _ => ?_)
  exact (ih.level 0 h).bind fun e taken he => ih.conditions he

theorem plainExpr_succ (h : Ready start) :
    Ensures all start (parsePlainExpr (fuel + 1)) (Clear all start) := by
  rw [parsePlainExpr]
  exact (ih.level 0 h).nested

theorem conditions_succ {line : Nat} {e : Expr} (he : Clear all start e taken) :
    Ensures all taken (parseConditions (fuel + 1) line e) (Clear all start) := by
  rw [parseConditions]
  refine .takeIf_bind (fun t ht _ => ?_) (.pure he)
  have hif : Ready (taken ++ [t]) := ready_concat _ (Token.leadsOperand_of_test ht rfl)
  refine (ih.level 0 hif).bind fun test taken₁ htest => ?_
  have hcond : ∀ other, Spells all (optionCallees other) → ∀ taken₂,
      Clear all start (.cond line test e other) taken₂ := by
    intro other hother taken₂
    refine .of_spells (by simp) ?_
    simp [htest.spelled, he.spelled, hother]
  refine .takeIf_bind (fun u hu _ => ?_) ?_
  · refine .get_bind fun p _ => ?_
    have helse : Ready (taken₁ ++ [u]) := ready_concat _ (Token.leadsOperand_of_test hu rfl)
    refine (ih.level 0 helse).bind fun e' taken₂ he' => ?_
    refine .map_bind (ih.conditions he') fun other taken₃ hother => ?_
    exact .get_bind fun q _ => ih.conditions (hcond (some other) hother.spelled _)
  · refine .return_bind (.get_bind fun q _ => ?_)
    exact ih.conditions (hcond none (by simp) _)

theorem level_succ (level : Nat) (h : Ready start) :
    Ensures all start (parseLevel (fuel + 1) level) (Clear all start) := by
  rw [parseLevel]
  split
  · -- `not`
    refine .nextLine_bind fun line => .takeIf_bind (fun t ht _ => ?_) (ih.level 3 h)
    have hnot : Ready (start ++ [t]) := ready_concat _ (Token.leadsOperand_of_test ht rfl)
    refine (ih.level 2 hnot).bind fun e taken he => .pure ?_
    exact .of_spells (by simp) he.spelled
  · split
    · -- Comparisons
      refine .get_bind fun p _ => (ih.level 4 h).bind fun first taken hfirst => ?_
      refine (ih.comparisons (by simp)).bind fun links taken' hlinks => ?_
      exact .pure (hfirst.compared _ hlinks.1 fun hnone => (hlinks.2 hnone).2)
    · split
      · refine .nextLine_bind fun line => (ih.negation h).bind fun e taken he => ?_
        exact (ih.suffixes h he).bind fun e' taken' he' => ih.filters he'
      · refine .nextLine_bind fun line => ?_
        exact (ih.level (level + 1) h).bind fun left taken hleft => ih.operators hleft

theorem operators_succ {level line : Nat} {e : Expr} (he : Clear all start e taken) :
    Ensures all taken (parseOperators (fuel + 1) level line e) (Clear all start) := by
  rw [parseOperators]
  refine .peek_bind fun r hr => ?_
  split
  · rename_i op hop
    obtain ⟨t, rfl, ht⟩ := Option.bind_eq_some_iff.mp hop
    have hready : Ready (taken ++ [t]) := ready_concat _ (Token.leadsOperand_of_binaryOpAt ht)
    refine .discard_bind (hr t rfl) ?_
    refine (ih.level (level + 1) hready).bind fun right taken' hright => ?_
    refine ih.operators (.of_spells (by simp) ?_)
    simp [he.spelled, hright.spelled]
  · exact .pure he

/-- One more comparison behind its operator; there is one then, wherever they started. -/
theorem comparison {links : List (Link × Expr)} {base : List Token} (link : Link)
    (h : Ready taken) (hlinks : Spells all (linksCallees links)) :
    Ensures all taken
      (do
        let e ← parseLevel fuel 4
        parseComparisons fuel (links ++ [(link, e)]))
      fun links' taken' =>
        Spells all (linksCallees links') ∧ (links' = [] → links = [] ∧ taken' = base) := by
  refine (ih.level 4 h).bind fun e taken₁ he => ?_
  refine (ih.comparisons ?_).mono fun links' taken' hlinks' => ⟨hlinks'.1, fun hnone => ?_⟩
  · simp [hlinks, he.spelled]
  · simp at hlinks'
    exact absurd hnone hlinks'.2

theorem comparisons_succ {links : List (Link × Expr)}
    (hlinks : Spells all (linksCallees links)) :
    Ensures all taken (parseComparisons (fuel + 1) links) fun links' taken' =>
      Spells all (linksCallees links') ∧ (links' = [] → links = [] ∧ taken' = taken) := by
  have hend : links = [] → links = [] ∧ taken = taken := fun h => ⟨h, rfl⟩
  rw [parseComparisons]
  refine .get_bind fun p _ => .peek_bind fun r hr => ?_
  split
  · rename_i t
    have ht : Next all taken t := hr t rfl
    split
    · rename_i op hop
      have hready : Ready (taken ++ [t]) :=
        ready_concat _ (Token.leadsOperand_of_comparisonOp hop)
      exact .discard_bind ht (ih.comparison _ hready hlinks)
    · split
      · rename_i hin
        have hready : Ready (taken ++ [t]) := ready_concat _ (Token.leadsOperand_of_test hin rfl)
        exact .discard_bind ht (ih.comparison _ hready hlinks)
      · split
        · refine .discard_bind ht (.expect_bind fun u hu _ => ?_)
          exact ih.comparison _ (ready_concat _ (Token.leadsOperand_of_test hu rfl)) hlinks
        · exact .pure ⟨hlinks, hend⟩
  · exact .pure ⟨hlinks, hend⟩

theorem negation_succ (h : Ready start) :
    Ensures all start (parseNegation (fuel + 1)) (Clear all start) := by
  rw [parseNegation]
  refine .nextLine_bind fun line => .peek_bind fun r hr => ?_
  split
  · refine .discard_bind (hr _ rfl) ?_
    refine (ih.negation (ready_concat _ rfl)).bind fun e taken he => .pure ?_
    exact .of_spells (by simp) he.spelled
  · exact (ih.primary h).nested

theorem primary_succ (_ : Ready start) :
    Ensures all start (parsePrimary (fuel + 1)) (Clear all start) := by
  rw [parsePrimary]
  refine .take_bind (fun t _ => .get_bind fun p _ => ?_) fun _ => ensures_reject
  have hconst : ∀ {line value taken}, Clear all start (.const line value) taken :=
    .of_spells (by simp) (by simp)
  dsimp only
  split
  iterate 6 exact .pure hconst
  · rename_i name _ _ _ _ _ _
    refine .pure ⟨by simp, ?_⟩
    intro line name' he
    cases he
    exact ⟨0, rfl⟩
  · exact (parseMoreStrings_ensures _ _ _).bind fun s taken _ => .pure hconst
  · exact .pure hconst
  · exact .pure hconst
  · -- Parentheses
    have hopen : Ready (start ++ [.parenOpen]) := ready_concat _ rfl
    refine .takeIf_bind (fun u _ _ => .pure (.of_spells (by simp) (by simp)))
      ((ih.expr hopen).bind fun e taken he => ?_)
    refine .peek_bind fun r _ => ?_
    split
    · refine (ih.items (fun _ h => Token.leadsOperand_of_test h rfl) (by simp)
        (by simpa using he.spelled)).bind fun items taken' hitems => .pure ?_
      exact .of_spells (by simp) hitems
    · refine .expect_bind fun u hu _ => .pure ⟨he.spelled, fun line' name hvar => ?_⟩
      obtain ⟨k, hk⟩ := he.bare line' name hvar
      refine ⟨k + 1, ?_⟩
      cases u <;> simp [Token.isParenClose] at hu
      rw [hk, wrapped_succ]
      simp
  · refine (ih.items (fun _ h => Token.leadsOperand_of_test h rfl) (fun _ => ready_concat _ rfl)
      (by simp)).bind
      fun items taken hitems => .pure ?_
    exact .of_spells (by simp) hitems
  · refine (ih.entries (fun _ => ready_concat _ rfl) (by simp)).bind
      fun entries taken hentries => .pure ?_
    exact .of_spells (by simp) hentries
  · exact ensures_reject

theorem items_succ {close : Token → Bool} {items : List Expr}
    (hclose : ∀ t, close t = true → t.leadsOperand = true) (h : items = [] → Ready taken)
    (hitems : Spells all (listCallees items)) :
    Ensures all taken (parseItems (fuel + 1) close items) fun items' _ =>
      Spells all (listCallees items') := by
  rw [parseItems]
  refine .takeIf_bind (fun t _ _ => .pure hitems) ?_
  rw [if_neg Bool.false_ne_true]
  refine .comma_bind (fun hempty => h (List.isEmpty_iff.mp hempty)) fun taken₁ h₁ => ?_
  refine .close_bind hclose h₁ (fun _ _ => hitems) fun taken₂ h₂ => ?_
  refine (ih.expr h₂).bind fun e taken₃ he => ih.items hclose (by simp) ?_
  simp [hitems, he.spelled]

theorem entries_succ {entries : List (Expr × Expr)} (h : entries = [] → Ready taken)
    (hentries : Spells all (entriesCallees entries)) :
    Ensures all taken (parseEntries (fuel + 1) entries) fun entries' _ =>
      Spells all (entriesCallees entries') := by
  rw [parseEntries]
  refine .takeIf_bind (fun t _ _ => .pure hentries) ?_
  rw [if_neg Bool.false_ne_true]
  refine .comma_bind (fun hempty => h (List.isEmpty_iff.mp hempty)) fun taken₁ h₁ => ?_
  refine .close_bind (fun _ h => Token.leadsOperand_of_test h rfl) h₁ (fun _ _ => hentries)
    fun taken₂ h₂ => ?_
  refine (ih.expr h₂).bind fun key taken₃ hkey => .expect_bind fun t ht _ => ?_
  have hcolon : Ready (taken₃ ++ [t]) := ready_concat _ (Token.leadsOperand_of_test ht rfl)
  refine (ih.expr hcolon).bind fun value taken₄ hvalue => ih.entries (by simp) ?_
  simp [hentries, hkey.spelled, hvalue.spelled]

theorem bound_bind {β : Type} {omitted : Prop} [Decidable omitted] {next : Option Expr → Parse β}
    {post : β → List Token → Prop} (h : Ready taken)
    (hnext : ∀ b taken', Spells all (optionCallees b) → Ensures all taken' (next b) post) :
    Ensures all taken
      (if omitted then pure none >>= next else some <$> parseExpr fuel >>= next) post := by
  split
  · exact .return_bind (hnext none _ (by simp))
  · exact .map_bind (ih.expr h) fun e taken' he => hnext (some e) _ he.spelled

theorem suffixes_succ {line : Nat} {e : Expr} (h : Ready start) (he : Clear all start e taken) :
    Ensures all taken (parsePostfix (fuel + 1) line e) (Clear all start) := by
  rw [parsePostfix]
  refine .nextLine_bind fun next => .peek_bind fun r hr => ?_
  split
  · -- An attribute
    refine .discard_bind (hr _ rfl) (.take_bind (fun u _ => ?_) fun _ => ensures_reject)
    split
    · exact ih.suffixes h (.of_spells (by simp) he.spelled)
    · refine .get_bind fun p _ => ih.suffixes h (.of_spells (by simp) ?_)
      simp [he.spelled]
    · exact ensures_reject
  · -- An index or a slice
    have hslice : ∀ {b c d taken'}, Spells all (optionCallees b) →
        Spells all (optionCallees c) → Spells all (optionCallees d) → Ensures all taken'
          (do
            expect Token.isBracketClose
            parsePostfix fuel next (.slice line e b c d))
          (Clear all start) := by
      intro b c d taken' hb hc hd
      refine .expect_bind fun u _ _ => ih.suffixes h (.of_spells (by simp) ?_)
      simp [he.spelled, hb, hc, hd]
    refine .discard_bind (hr _ rfl) (.peek_bind fun r₁ _ => ?_)
    refine ih.bound_bind (ready_concat _ rfl) fun b taken₁ hb => ?_
    refine .takeIf_bind (fun u hu _ => .peek_bind fun r₂ _ => ?_) ?_
    · have hcolon : Ready (taken₁ ++ [u]) := ready_concat _ (Token.leadsOperand_of_test hu rfl)
      refine ih.bound_bind hcolon fun c taken₂ hc => ?_
      refine .takeIf_bind (fun v hv _ => .peek_bind fun r₃ _ => ?_) ?_
      · have hcolon' : Ready (taken₂ ++ [v]) :=
          ready_concat _ (Token.leadsOperand_of_test hv rfl)
        exact ih.bound_bind hcolon' fun d taken₃ hd => hslice hb hc hd
      · exact .return_bind (hslice hb hc (by simp))
    · refine .expect_bind fun u _ _ => ?_
      split
      · rename_i index
        refine ih.suffixes h (.of_spells (by simp) ?_)
        have hindex : Spells all index.callees := hb
        simp [he.spelled, hindex]
      · exact ensures_reject
  · -- A call
    refine ih.args.bind fun args taken' hargs => ih.suffixes h (.of_spells (by simp) ?_)
    simp [he.spelled, he.spells_bareName h (hr _ rfl), hargs.1, hargs.2]
  · exact .pure he

theorem filters_succ {e : Expr} (he : Clear all start e taken) :
    Ensures all taken (parseFilters (fuel + 1) e) (Clear all start) := by
  have hempty : ({} : Args).Clear all := by simp [Args.Clear]
  rw [parseFilters]
  refine .peek_bind fun r hr => ?_
  split
  · refine .discard_bind (hr _ rfl) (parseDottedName_ready.bind fun name taken₁ _ => ?_)
    refine .get_bind fun p _ => ih.optionalArgs.bind fun args taken₂ hargs => ?_
    refine ih.filters (.of_spells (by simp) ?_)
    simp [he.spelled, hargs.1, hargs.2]
  · have htest : ∀ {line name args negated taken'}, Args.Clear all args →
        Ensures all taken'
          (parseFilters fuel (if negated = true then
            .unary line .not (.test line name e args.args args.named)
            else .test line name e args.args args.named))
          (Clear all start) := by
      intro line name args negated taken' hargs
      refine ih.filters ?_
      split <;> exact .of_spells (by simp) (by simp [he.spelled, hargs.1, hargs.2])
    refine .discard_bind (hr _ rfl) (takeIf_ensures.bind fun negated taken₀ _ => ?_)
    refine parseDottedName_ready.bind fun name taken₁ h₁ => .get_bind fun p _ => ?_
    refine .peek_bind fun r₁ _ => ?_
    dsimp only
    split
    · exact ih.args.bind fun args taken₂ hargs => htest hargs
    · split
      · refine .nextLine_bind fun line => (ih.negation h₁).bind fun arg taken₂ harg => ?_
        refine (ih.suffixes h₁ harg).bind fun arg' taken₃ harg' => .return_bind (htest ?_)
        simp [Args.Clear, harg'.spelled]
      · exact .return_bind (htest hempty)
    · exact .return_bind (htest hempty)
  · exact .pure he

theorem optionalArgs_succ :
    Ensures all taken (parseOptionalArgs (fuel + 1)) fun a _ => a.Clear all := by
  have hempty : ({} : Args).Clear all := by simp [Args.Clear]
  rw [parseOptionalArgs]
  refine .peek_bind fun r _ => ?_
  split
  · exact ih.args
  · exact .pure hempty

theorem args_succ : Ensures all taken (parseArgs (fuel + 1)) fun a _ => a.Clear all := by
  rw [parseArgs]
  refine .expect_bind fun t ht _ => ih.moreArgs (fun _ => ?_) ?_
  · exact ready_concat _ (Token.leadsOperand_of_test ht rfl)
  · simp [Args.Clear]

theorem moreArgs_succ {a : Args} (h : a.isEmpty = true → Ready taken) (ha : a.Clear all) :
    Ensures all taken (parseMoreArgs (fuel + 1) a) fun a' _ => a'.Clear all := by
  rw [parseMoreArgs]
  refine .takeIf_bind (fun t _ _ => .pure ha) ?_
  rw [if_neg Bool.false_ne_true]
  refine .comma_bind h fun taken₁ h₁ => ?_
  refine .close_bind (fun _ h => Token.leadsOperand_of_test h rfl) h₁ (fun _ _ => ha)
    fun taken₂ h₂ => ?_
  refine .peek_bind fun r hr => ?_
  split
  · -- Named arguments to be spread out
    refine .discard_bind (hr _ rfl) ((ih.expr (ready_concat _ rfl)).bind fun e taken₃ he => ?_)
    refine ih.moreArgs (by simp [Args.isEmpty]) ?_
    simp [Args.Clear, ha.1, ha.2, he.spelled]
  · -- Arguments to be spread out
    refine .discard_bind (hr _ rfl) ((ih.expr (ready_concat _ rfl)).bind fun e taken₃ he => ?_)
    refine ih.moreArgs (by simp [Args.isEmpty]) ?_
    simp [Args.Clear, ha.1, ha.2, he.spelled]
  · refine (ih.expr h₂).bind fun e taken₃ he => ?_
    have hsingle : ∀ {taken'}, Ensures all taken'
        (if (!a.named.isEmpty) = true then reject
          else parseMoreArgs fuel { a with args := a.args ++ [(.single, e)] })
        fun a' _ => a'.Clear all := by
      intro taken'
      split
      · exact ensures_reject
      · refine ih.moreArgs (by simp [Args.isEmpty]) ?_
        simp [Args.Clear, ha.1, ha.2, he.spelled]
    dsimp only
    split
    · refine .takeIf_bind (fun u hu _ => .return_bind ?_) (.return_bind hsingle)
      have hassign : Ready (taken₃ ++ [u]) := ready_concat _ (Token.leadsOperand_of_test hu rfl)
      refine (ih.plainExpr hassign).bind fun value taken₄ hvalue => ?_
      refine ih.moreArgs (by simp [Args.isEmpty]) ?_
      simp [Args.Clear, ha.1, ha.2, hvalue.spelled]
    · exact .return_bind hsingle

end ExprSpells

/-- **Every callee of an expression is spelled as a call.** -/
theorem exprSpells (all : List Token) (fuel : Nat) : ExprSpells all fuel := by
  induction fuel with
  | zero =>
      constructor <;> intros <;>
        simp only [parseExpr, parsePlainExpr, parseConditions, parseLevel, parseOperators,
          parseComparisons, parseNegation, parsePrimary, parseItems, parseEntries, parsePostfix,
          parseFilters, parseOptionalArgs, parseArgs, parseMoreArgs] <;>
        exact ensures_reject
  | succ fuel ih =>
      exact {
        expr := ih.expr_succ
        plainExpr := ih.plainExpr_succ
        conditions := ih.conditions_succ
        level := ih.level_succ
        operators := ih.operators_succ
        comparisons := ih.comparisons_succ
        negation := ih.negation_succ
        primary := ih.primary_succ
        items := ih.items_succ
        entries := ih.entries_succ
        suffixes := ih.suffixes_succ
        filters := ih.filters_succ
        optionalArgs := ih.optionalArgs_succ
        args := ih.args_succ
        moreArgs := ih.moreArgs_succ }

end Folio.Template
