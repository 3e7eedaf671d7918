/-
Names in front of parentheses in expressions.

The functions for expressions hand on to each other what has been read so far.  `ExprReads` says
what all of them ensure with some fuel, there is a lemma for each function that takes it to one
unit of fuel more, and `exprReads` is the induction.
-/
import Folio.Proofs.NamesInFront

namespace Folio.Template

open Parse

variable {all base start taken : List Token} {fuel : Nat} {S : String → Prop}

/-- The names that arguments show. -/
def Args.Shows (a : Args) (n : String) : Prop :=
  AnyShows (a.args.map (·.2)) n ∨ AnyShows (a.named.map (·.2)) n

/-- What the functions for expressions ensure. -/
structure ExprReads (all : List Token) (fuel : Nat) : Prop where
  expr : ∀ {start}, Opens all start → Ensures all start (parseExpr fuel) fun e taken =>
    Reads all start taken e.Shows
  plainExpr : ∀ {start}, Opens all start → Ensures all start (parsePlainExpr fuel) fun e taken =>
    Reads all start taken e.Shows
  conditions : ∀ {base taken line e}, Reads all base taken e.Shows →
    Ensures all taken (parseConditions fuel line e) fun e' taken' =>
      Reads all base taken' e'.Shows
  level : ∀ {start} level, Opens all start → Ensures all start (parseLevel fuel level)
    fun e taken => Reads all start taken e.Shows
  operators : ∀ {base taken level line e}, Reads all base taken e.Shows →
    Ensures all taken (parseOperators fuel level line e) fun e' taken' =>
      Reads all base taken' e'.Shows
  comparisons : ∀ {base taken links} {S : String → Prop},
    Reads all base taken (fun n => S n ∨ AnyShows (links.map (·.2)) n) →
    Ensures all taken (parseComparisons fuel links) fun links' taken' =>
      Reads all base taken' fun n => S n ∨ AnyShows (links'.map (·.2)) n
  negation : ∀ {start}, Opens all start → Ensures all start (parseNegation fuel) fun e taken =>
    Reads all start taken e.Shows ∧ Ends all taken e
  primary : ∀ {start}, Opens all start → Ensures all start (parsePrimary fuel) fun e taken =>
    Reads all start taken e.Shows ∧ Ends all taken e
  items : ∀ {base taken close items}, (∀ n, close (.ident n) = false) →
    close .parenOpen = false → (items = [] → Opens all taken) →
    Reads all base taken (AnyShows items) →
    Ensures all taken (parseItems fuel close items) fun items' taken' =>
      Reads all base taken' (AnyShows items') ∧ Shut all taken'
  entries : ∀ {base taken entries}, (entries = [] → Opens all taken) →
    Reads all base taken (AnyShows (entries.flatMap fun e => [e.1, e.2])) →
    Ensures all taken (parseEntries fuel entries) fun entries' taken' =>
      Reads all base taken' (AnyShows (entries'.flatMap fun e => [e.1, e.2])) ∧ Shut all taken'
  suffixes : ∀ {base taken line e}, Reads all base taken e.Shows → Ends all taken e →
    Ensures all taken (parsePostfix fuel line e) fun e' taken' => Reads all base taken' e'.Shows
  filters : ∀ {base taken e}, Reads all base taken e.Shows →
    Ensures all taken (parseFilters fuel e) fun e' taken' => Reads all base taken' e'.Shows
  optionalArgs : ∀ {base taken} {S : String → Prop},
    (∀ n, Faces all taken n → n ∈ groupWords ∨ S n) →
    Reads all base taken S → Ensures all taken (parseOptionalArgs fuel) fun a taken' =>
      Reads all base taken' fun n => S n ∨ a.Shows n
  args : ∀ {base taken} {S : String → Prop}, (∀ n, Faces all taken n → n ∈ groupWords ∨ S n) →
    Reads all base taken S → Ensures all taken (parseArgs fuel) fun a taken' =>
      Reads all base taken' (fun n => S n ∨ a.Shows n) ∧ Shut all taken'
  moreArgs : ∀ {base taken a} {S : String → Prop}, (a.isEmpty = true → Opens all taken) →
    Reads all base taken (fun n => S n ∨ a.Shows n) →
    Ensures all taken (parseMoreArgs fuel a) fun a' taken' =>
      Reads all base taken' (fun n => S n ∨ a'.Shows n) ∧ Shut all taken'

theorem operator_opens {t : Token} {level : Nat} {op : BinaryOp}
    (h : binaryOpAt level t = some op) : t ≠ .parenOpen ∧ Opens all (taken ++ [t]) := by
  unfold binaryOpAt at h
  split at h
  case h_1 => exact ⟨by simp, @opens_word _ _ _ "or" rfl (by decide)⟩
  case h_2 => exact ⟨by simp, @opens_word _ _ _ "and" rfl (by decide)⟩
  case h_11 => cases h
  all_goals exact ⟨by simp, (shut_mark (by simp)).opens⟩

/-- A comma is asked for unless something is the first of its kind. -/
theorem Parse.Ensures.comma_reads {β : Type} {first : Bool} {next : PUnit → Parse β}
    {post : β → List Token → Prop} (hfirst : first = true → Opens all taken)
    (hreads : Reads all base taken S)
    (h : ∀ taken', Opens all taken' → Reads all base taken' S → Ensures all taken' (next ⟨⟩) post) :
    Ensures all taken (if (!first) = true then expect Token.isComma >>= next else next ⟨⟩)
      post := by
  cases first with
  | true => exact h taken (hfirst rfl) hreads
  | false =>
      exact .expect_bind fun t ht hnext => h _ (shut_test ht rfl).opens (hreads.test hnext ht rfl)

theorem Parse.Ensures.close_reads {β : Type} {close : Token → Bool} {first : Bool} {b : β}
    {next : Parse β} {post : β → List Token → Prop} (hname : ∀ n, close (.ident n) = false)
    (hopen : close .parenOpen = false) (hopens : Opens all taken) (hreads : Reads all base taken S)
    (hend : ∀ taken', Shut all taken' → Reads all base taken' S → post b taken')
    (hnext : ∀ taken', Opens all taken' → Reads all base taken' S → Ensures all taken' next post) :
    Ensures all taken
      (do if !first && (← takeIf close) then return b else next)
      post := by
  refine .takeIf_bind (fun t ht hn => ?_) ?_
  · have hshut : Shut all (taken ++ [t]) := shut_test ht (funext hname)
    have hreads' : Reads all base (taken ++ [t]) S := hreads.test hn ht hopen
    exact .ite (.pure (hend _ hshut hreads')) (hnext _ hshut.opens hreads')
  · rw [Bool.and_false, if_neg Bool.false_ne_true]
    exact hnext _ hopens hreads

/-- Whether a token was taken does not matter if it is no opening parenthesis. -/
theorem takeIf_reads {f : Token → Bool} (hreads : Reads all base taken S)
    (hopen : f .parenOpen = false) :
    Ensures all taken (takeIf f) fun _ taken' => Reads all base taken' S := by
  rw [← bind_pure (takeIf f)]
  exact .takeIf_bind (fun t ht hn => .pure (hreads.test hn ht hopen)) (.pure hreads)

/-- The name of a filter or a test: a name in front of an opening parenthesis is that name, and
what is before it is neither a point nor a pipe. -/
theorem parseMoreName_reads {P : Prop} (fuel : Nat) : ∀ (taken : List Token) (name : String),
    Reads all base taken S → (∀ n, Faces all taken n → n = name ∧ P) →
    Ensures all taken (parseMoreName fuel name) fun name' taken' =>
      Reads all base taken' S ∧ ∀ n, Faces all taken' n → n = name' ∧ P := by
  induction fuel with
  | zero => intro taken name _ _; exact ensures_reject
  | succ fuel ih =>
      intro taken name hreads hname
      rw [parseMoreName]
      refine .takeIf_bind (fun t ht hnext => ?_) (.pure ⟨hreads, hname⟩)
      refine .name_bind fun part hpart => ih _ _ ?_ fun n hn => absurd hn (shut_member ?_ n)
      · exact (hreads.test hnext ht rfl).token hpart (by simp)
      · cases t <;> simp [Token.isDot, Token.leadsCall] at ht ⊢

theorem parseDottedName_reads {P : Prop} (hreads : Reads all base taken S)
    (h : (∀ t, taken.getLast? = some t → t.leadsCall = true) → P) :
    Ensures all taken (parseDottedName fuel) fun name taken' =>
      Reads all base taken' S ∧ ∀ n, Faces all taken' n → n = name ∧ P := by
  refine .name_bind fun s hs => parseMoreName_reads fuel _ _ (hreads.token hs (by simp)) ?_
  exact fun n hn => hn.leadsCall.imp_right h

theorem parseMoreStrings_reads (fuel : Nat) : ∀ (taken : List Token) (s : String),
    Reads all base taken S → Shut all taken →
    Ensures all taken (parseMoreStrings fuel s) fun _ taken' =>
      Reads all base taken' S ∧ Shut all taken' := by
  induction fuel with
  | zero => intro taken s _ _; exact ensures_reject
  | succ fuel ih =>
      intro taken s hreads hshut
      rw [parseMoreStrings]
      refine .settle_bind (.peek_bind fun r hr => ?_)
      split
      · exact .discard_bind (hr _ rfl)
          (ih _ _ (hreads.token (hr _ rfl) (by simp)) (shut_mark (by simp)))
      · exact .pure ⟨hreads, hshut⟩

namespace ExprReads

variable (ih : ExprReads all fuel)
include ih

theorem expr_succ (h : Opens all start) : Ensures all start (parseExpr (fuel + 1))
    fun e taken => Reads all start taken e.Shows := by
  rw [parseExpr]
  refine .nested (.get_bind fun p _ => ?_)
  exact (ih.level 0 h).bind fun e taken he => ih.conditions he

theorem plainExpr_succ (h : Opens all start) : Ensures all start (parsePlainExpr (fuel + 1))
    fun e taken => Reads all start taken e.Shows := by
  rw [parsePlainExpr]
  exact (ih.level 0 h).nested

theorem conditions_succ {line : Nat} {e : Expr} (he : Reads all base taken e.Shows) :
    Ensures all taken (parseConditions (fuel + 1) line e) fun e' taken' =>
      Reads all base taken' e'.Shows := by
  rw [parseConditions]
  refine .takeIf_bind (fun t ht hif => ?_) (.pure he)
  refine (ih.level 0 (opens_word ht (by decide))).bind fun test taken₁ htest => ?_
  have htested := (he.test hif ht rfl).trans htest
  refine .takeIf_bind (fun u hu helse => ?_) ?_
  · refine .get_bind fun p _ => ?_
    refine (ih.level 0 (opens_word hu (by decide))).bind fun no taken₂ hno => ?_
    refine .map_bind (ih.conditions hno) fun other taken₃ hother => .get_bind fun q _ => ?_
    refine ih.conditions (((htested.test helse hu rfl).trans hother).mono fun n hn => ?_)
    simpa [or_assoc, or_left_comm] using hn
  · refine .return_bind (.get_bind fun q _ => ih.conditions (htested.mono fun n hn => ?_))
    simpa [or_comm] using hn

theorem level_succ {level : Nat} (h : Opens all start) :
    Ensures all start (parseLevel (fuel + 1) level) fun e taken =>
      Reads all start taken e.Shows := by
  rw [parseLevel]
  split
  · -- `not`
    refine .nextLine_bind fun line => .takeIf_bind (fun t ht hnot => ?_) (ih.level 3 h)
    refine (ih.level 2 (opens_word ht (by decide))).bind fun e taken he => .pure ?_
    exact (he.behind hnot (ne_parenOpen ht rfl)).mono (by simp)
  · split
    · -- Comparisons
      refine .get_bind fun p _ => (ih.level 4 h).bind fun first taken hfirst => ?_
      have hnone := hfirst.mono fun n hn => (.inl hn : first.Shows n ∨ AnyShows [] n)
      refine (ih.comparisons hnone).bind fun links taken' hlinks => .pure ?_
      exact hlinks.mono fun n hn => by simpa using hn
    · split
      · refine .nextLine_bind fun line => (ih.negation h).bind fun e taken he => ?_
        exact (ih.suffixes he.1 he.2).bind fun e' taken' he' => ih.filters he'
      · refine .nextLine_bind fun line => ?_
        exact (ih.level (level + 1) h).bind fun left taken hleft => ih.operators hleft

theorem operators_succ {level line : Nat} {e : Expr} (he : Reads all base taken e.Shows) :
    Ensures all taken (parseOperators (fuel + 1) level line e) fun e' taken' =>
      Reads all base taken' e'.Shows := by
  rw [parseOperators]
  refine .peek_bind fun r hr => ?_
  split
  · rename_i op hop
    obtain ⟨t, rfl, ht⟩ := Option.bind_eq_some_iff.mp hop
    obtain ⟨hne, hopens⟩ := @operator_opens all taken t _ _ ht
    refine .discard_bind (hr t rfl) ?_
    refine (ih.level (level + 1) hopens).bind fun right taken' hright => ih.operators ?_
    exact ((he.token (hr t rfl) hne).trans hright).mono fun n hn => by simpa using hn
  · exact .pure he

theorem comparison {links : List (Link × Expr)} (link : Link) (h : Opens all taken)
    (hlinks : Reads all base taken fun n => S n ∨ AnyShows (links.map (·.2)) n) :
    Ensures all taken
      (do
        let e ← parseLevel fuel 4
        parseComparisons fuel (links ++ [(link, e)]))
      fun links' taken' => Reads all base taken' fun n => S n ∨ AnyShows (links'.map (·.2)) n := by
  refine (ih.level 4 h).bind fun e taken₁ he => ih.comparisons ?_
  exact (hlinks.trans he).mono fun n hn => by simpa [or_assoc] using hn

theorem comparisons_succ {links : List (Link × Expr)}
    (hlinks : Reads all base taken fun n => S n ∨ AnyShows (links.map (·.2)) n) :
    Ensures all taken (parseComparisons (fuel + 1) links) fun links' taken' =>
      Reads all base taken' fun n => S n ∨ AnyShows (links'.map (·.2)) n := by
  rw [parseComparisons]
  refine .get_bind fun p _ => .peek_bind fun r hr => ?_
  split
  · rename_i t
    have hnext : Next all taken t := hr t rfl
    split
    · rename_i op hop
      have hmark : (∀ n, t ≠ .ident n) ∧ t ≠ .parenOpen := by
        constructor
        · rintro n rfl
          simp [comparisonOp] at hop
        · rintro rfl
          simp [comparisonOp] at hop
      refine .discard_bind hnext (ih.comparison _ (shut_mark hmark.1).opens ?_)
      exact hlinks.token hnext hmark.2
    · split
      · rename_i hin
        refine .discard_bind hnext (ih.comparison _ (opens_word hin (by decide)) ?_)
        exact hlinks.test hnext hin rfl
      · split
        · rename_i hnot
          refine .discard_bind hnext (.expect_bind fun u hu hin => ?_)
          refine ih.comparison _ (opens_word hu (by decide)) ?_
          exact (hlinks.test hnext hnot rfl).test hin hu rfl
        · exact .pure hlinks
  · exact .pure hlinks

theorem negation_succ (h : Opens all start) : Ensures all start (parseNegation (fuel + 1))
    fun e taken => Reads all start taken e.Shows ∧ Ends all taken e := by
  rw [parseNegation]
  refine .nextLine_bind fun line => .peek_bind fun r hr => ?_
  split
  · have hminus := hr _ rfl
    refine .discard_bind hminus ?_
    refine (ih.negation (shut_mark (by simp)).opens).bind fun e taken he => .pure ⟨?_, he.2⟩
    exact (he.1.behind hminus (by simp)).mono (by simp)
  · exact (ih.primary h).nested

theorem primary_succ (h : Opens all start) : Ensures all start (parsePrimary (fuel + 1))
    fun e taken => Reads all start taken e.Shows ∧ Ends all taken e := by
  rw [parsePrimary]
  refine .take_bind (fun t ht => .get_bind fun p _ => ?_) fun _ => ensures_reject
  dsimp only
  -- A word that is a constant, and a literal.
  have hword : ∀ {line value s}, t = .ident s → s ∈ groupWords →
      Reads all start (start ++ [t]) (Expr.const line value).Shows ∧
        Ends all (start ++ [t]) (.const line value) := by
    rintro line value s rfl hs
    refine ⟨Reads.refl.token ht (by simp), fun n hn => ?_⟩
    cases hn.last
    exact .inl hs
  have hmark : ∀ {line value}, t ≠ .parenOpen → (∀ n, t ≠ .ident n) →
      Reads all start (start ++ [t]) (Expr.const line value).Shows ∧
        Ends all (start ++ [t]) (.const line value) :=
    fun hne hname => ⟨Reads.refl.token ht hne, (shut_mark hname).ends⟩
  split
  iterate 6 exact .pure (hword rfl (by decide))
  · rename_i name _ _ _ _ _ _
    refine .pure ⟨Reads.refl.token ht (by simp), fun n hn => ?_⟩
    cases hn.last
    exact .inr (by simp [Expr.signedName])
  · have hnone : Reads all start (start ++ [.str _]) fun _ => False := Reads.refl.token ht (by simp)
    refine (parseMoreStrings_reads _ _ _ hnone (shut_mark (by simp))).bind fun s taken hs => ?_
    exact .pure ⟨hs.1.mono fun _ => False.elim, hs.2.ends⟩
  · exact .pure (hmark (by simp) (by simp))
  · exact .pure (hmark (by simp) (by simp))
  · -- Parentheses
    have hgroup : ∀ {S}, Reads all start (start ++ [.parenOpen]) S := Reads.refl.group ht h
    refine .takeIf_bind (fun u hu hclose => .pure ⟨?_, (shut_test hu rfl).ends⟩) ?_
    · exact hgroup.test hclose hu rfl
    refine (ih.expr (shut_mark (by simp)).opens).bind fun e taken he => ?_
    have hreads : Reads all start taken e.Shows :=
      (hgroup.trans he).mono fun n hn => hn.elim id id
    refine .peek_bind fun r _ => ?_
    split
    · refine (ih.items (fun _ => rfl) rfl (by simp) (hreads.mono (by simp))).bind
        fun items taken' hitems => .pure ⟨hitems.1.mono (by simp), hitems.2.ends⟩
    · exact .expect_bind fun u hu hclose =>
        .pure ⟨hreads.test hclose hu rfl, (shut_test hu rfl).ends⟩
  · refine (ih.items (fun _ => rfl) rfl (fun _ => (shut_mark (by simp)).opens)
      (Reads.refl.token ht (by simp))).bind
      fun items taken hitems => .pure ⟨hitems.1.mono (by simp), hitems.2.ends⟩
  · refine (ih.entries (fun _ => (shut_mark (by simp)).opens)
      (Reads.refl.token ht (by simp))).bind
      fun entries taken hentries => .pure ⟨hentries.1.mono (by simp), hentries.2.ends⟩
  · exact ensures_reject

theorem items_succ {close : Token → Bool} {items : List Expr}
    (hname : ∀ n, close (.ident n) = false) (hopen : close .parenOpen = false)
    (h : items = [] → Opens all taken) (hitems : Reads all base taken (AnyShows items)) :
    Ensures all taken (parseItems (fuel + 1) close items) fun items' taken' =>
      Reads all base taken' (AnyShows items') ∧ Shut all taken' := by
  rw [parseItems]
  refine .takeIf_bind (fun t ht hn => .pure ⟨hitems.test hn ht hopen, ?_⟩) ?_
  · exact shut_test ht (funext hname)
  rw [if_neg Bool.false_ne_true]
  refine .comma_reads (fun hempty => h (List.isEmpty_iff.mp hempty)) hitems
    fun taken₁ hopens₁ h₁ => ?_
  refine .close_reads hname hopen hopens₁ h₁ (fun _ hshut hreads => ⟨hreads, hshut⟩)
    fun taken₂ hopens₂ h₂ => ?_
  refine (ih.expr hopens₂).bind fun e taken₃ he => ih.items hname hopen (by simp) ?_
  exact (h₂.trans he).mono fun n hn => by simpa using hn

theorem entries_succ {entries : List (Expr × Expr)} (h : entries = [] → Opens all taken)
    (hentries : Reads all base taken (AnyShows (entries.flatMap fun e => [e.1, e.2]))) :
    Ensures all taken (parseEntries (fuel + 1) entries) fun entries' taken' =>
      Reads all base taken' (AnyShows (entries'.flatMap fun e => [e.1, e.2])) ∧
        Shut all taken' := by
  rw [parseEntries]
  refine .takeIf_bind (fun t ht hn => .pure ⟨hentries.test hn ht rfl, shut_test ht rfl⟩) ?_
  rw [if_neg Bool.false_ne_true]
  refine .comma_reads (fun hempty => h (List.isEmpty_iff.mp hempty)) hentries
    fun taken₁ hopens₁ h₁ => ?_
  refine .close_reads (fun _ => rfl) rfl hopens₁ h₁ (fun _ hshut hreads => ⟨hreads, hshut⟩)
    fun taken₂ hopens₂ h₂ => ?_
  refine (ih.expr hopens₂).bind fun key taken₃ hkey => .expect_bind fun t ht hcolon => ?_
  refine (ih.expr (shut_test ht rfl).opens).bind fun value taken₄ hvalue => ih.entries (by simp) ?_
  have hboth := ((h₂.trans hkey).test hcolon ht rfl).trans hvalue
  exact hboth.mono fun n hn => by simpa [or_assoc] using hn

theorem bound_reads {β : Type} {omitted : Prop} [Decidable omitted] {next : Option Expr → Parse β}
    {post : β → List Token → Prop} (h : Opens all taken) (hreads : Reads all base taken S)
    (hnext : ∀ b taken', Reads all base taken' (fun n => S n ∨ AnyShows b.toList n) →
      Ensures all taken' (next b) post) :
    Ensures all taken
      (if omitted then pure none >>= next else some <$> parseExpr fuel >>= next) post := by
  split
  · exact .return_bind (hnext none _ (hreads.mono fun _ => .inl))
  · refine .map_bind (ih.expr h) fun e taken' he => hnext (some e) _ ?_
    exact (hreads.trans he).mono fun n hn => by simpa using hn

theorem suffixes_succ {line : Nat} {e : Expr} (he : Reads all base taken e.Shows)
    (hends : Ends all taken e) :
    Ensures all taken (parsePostfix (fuel + 1) line e) fun e' taken' =>
      Reads all base taken' e'.Shows := by
  rw [parsePostfix]
  refine .nextLine_bind fun next => .peek_bind fun r hr => ?_
  split
  · -- An attribute
    have hdot := he.token (hr _ rfl) (by simp)
    refine .discard_bind (hr _ rfl) (.take_bind (fun u hu => ?_) fun _ => ensures_reject)
    split
    · rename_i name hname
      cases hname
      exact ih.suffixes ((hdot.token hu (by simp)).mono (by simp)) (shut_member rfl).ends
    · rename_i place hplace
      cases hplace
      refine .get_bind fun p _ => ih.suffixes ?_ (shut_mark (by simp)).ends
      exact (hdot.token hu (by simp)).mono (by simp)
    · exact ensures_reject
  · -- An index or a slice
    have hslice : ∀ {b c d taken'}, Reads all base taken' (Expr.slice line e b c d).Shows →
        Ensures all taken'
          (do
            expect Token.isBracketClose
            parsePostfix fuel next (.slice line e b c d))
          fun e' taken'' => Reads all base taken'' e'.Shows := by
      intro b c d taken' hreads
      exact .expect_bind fun u hu hn => ih.suffixes (hreads.test hn hu rfl) (shut_test hu rfl).ends
    have hopen := he.token (hr _ rfl) (by simp)
    refine .discard_bind (hr _ rfl) (.peek_bind fun r₁ _ => ?_)
    refine ih.bound_reads (shut_mark (by simp)).opens hopen fun b taken₁ hb => ?_
    refine .takeIf_bind (fun u hu hn => .peek_bind fun r₂ _ => ?_) ?_
    · refine ih.bound_reads (shut_test hu rfl).opens (hb.test hn hu rfl) fun c taken₂ hc => ?_
      refine .takeIf_bind (fun v hv hn' => .peek_bind fun r₃ _ => ?_) ?_
      · refine ih.bound_reads (shut_test hv rfl).opens (hc.test hn' hv rfl)
          fun d taken₃ hd => hslice ?_
        exact hd.mono fun n hn => by simpa [or_assoc] using hn
      · exact .return_bind (hslice (hc.mono fun n hn => by simpa [or_assoc] using hn))
    · refine .expect_bind fun u hu hn => ?_
      split
      · refine ih.suffixes ((hb.test hn hu rfl).mono fun n hn => ?_) (shut_test hu rfl).ends
        simpa using hn
      · exact ensures_reject
  · -- A call
    have hcallee : Reads all base taken fun n => n ∈ e.signedName ∨ e.Shows n :=
      he.mono fun _ => .inr
    refine (ih.args (fun n hn => (hends n hn).imp_right .inl) hcallee).bind
      fun args taken' hargs => ih.suffixes (hargs.1.mono fun n hn => ?_) hargs.2.ends
    simpa [Args.Shows, or_assoc] using hn
  · exact .pure he

theorem filters_succ {e : Expr} (he : Reads all base taken e.Shows) :
    Ensures all taken (parseFilters (fuel + 1) e) fun e' taken' =>
      Reads all base taken' e'.Shows := by
  rw [parseFilters]
  refine .peek_bind fun r hr => ?_
  split
  · -- A filter
    have hpipe := he.token (hr _ rfl) (by simp)
    refine .discard_bind (hr _ rfl) ?_
    refine (parseDottedName_reads (P := False) hpipe ?_).bind fun name taken₁ hname => ?_
    · intro hlead
      cases hlead .pipe (by simp)
    refine .get_bind fun p _ => ?_
    refine (ih.optionalArgs (fun n hn => (hname.2 n hn).2.elim) hname.1).bind
      fun args taken₂ hargs => ih.filters (hargs.mono fun n hn => ?_)
    simpa [Args.Shows, or_assoc] using hn
  · -- A test
    have htest : ∀ {line name args negated taken'},
        Reads all base taken' (fun n => (n = name ∨ e.Shows n) ∨ Args.Shows args n) →
        Ensures all taken'
          (parseFilters fuel (if negated = true then
            .unary line .not (.test line name e args.args args.named)
            else .test line name e args.args args.named))
          fun e' taken'' => Reads all base taken'' e'.Shows := by
      intro line name args negated taken' hreads
      refine ih.filters (hreads.mono fun n hn => ?_)
      split <;> simpa [Args.Shows, or_assoc] using hn
    have his := he.token (hr _ rfl) (by simp)
    refine .discard_bind (hr _ rfl) ((takeIf_reads his rfl).bind fun negated taken₀ h₀ => ?_)
    refine (parseDottedName_reads (P := True) h₀ fun _ => trivial).bind fun name taken₁ hname => ?_
    have hnamed : Reads all base taken₁ fun n => n = name ∨ e.Shows n := hname.1.mono fun _ => .inr
    refine .get_bind fun p _ => .peek_bind fun r₁ hr₁ => ?_
    dsimp only
    split
    · exact (ih.args (fun n hn => .inr (.inl (hname.2 n hn).1)) hnamed).bind
        fun args taken₂ hargs => htest hargs.1
    · split
      · rename_i t _ hbegins
        -- The argument begins with a token, and this one is no parenthesis.
        have hopens : Opens all taken₁ := by
          intro n hn
          rw [hn.next (hr₁ t rfl)] at hbegins
          cases hbegins
        refine .nextLine_bind fun line => (ih.negation hopens).bind fun arg taken₂ harg => ?_
        refine (ih.suffixes harg.1 harg.2).bind fun arg' taken₃ harg' => .return_bind (htest ?_)
        exact (hnamed.trans harg').mono fun n hn => by simpa [Args.Shows] using hn
      · exact .return_bind (htest (hnamed.mono fun _ => .inl))
    · exact .return_bind (htest (hnamed.mono fun _ => .inl))
  · exact .pure he

theorem optionalArgs_succ (hfaces : ∀ n, Faces all taken n → n ∈ groupWords ∨ S n)
    (hreads : Reads all base taken S) :
    Ensures all taken (parseOptionalArgs (fuel + 1)) fun a taken' =>
      Reads all base taken' fun n => S n ∨ a.Shows n := by
  rw [parseOptionalArgs]
  refine .peek_bind fun r _ => ?_
  split
  · exact (ih.args hfaces hreads).mono fun a taken' ha => ha.1
  · exact .pure (hreads.mono fun _ => .inl)

theorem args_succ (hfaces : ∀ n, Faces all taken n → n ∈ groupWords ∨ S n)
    (hreads : Reads all base taken S) :
    Ensures all taken (parseArgs (fuel + 1)) fun a taken' =>
      Reads all base taken' (fun n => S n ∨ a.Shows n) ∧ Shut all taken' := by
  rw [parseArgs]
  refine .expect_bind fun t ht hn => ?_
  have hopens : Opens all (taken ++ [t]) := by
    refine (shut_mark fun n heq => ?_).opens
    rw [heq] at ht
    cases ht
  exact ih.moreArgs (fun _ => hopens) ((hreads.take hn fun _ => hfaces).mono fun _ => .inl)

theorem moreArgs_succ {a : Args} (h : a.isEmpty = true → Opens all taken)
    (ha : Reads all base taken fun n => S n ∨ a.Shows n) :
    Ensures all taken (parseMoreArgs (fuel + 1) a) fun a' taken' =>
      Reads all base taken' (fun n => S n ∨ a'.Shows n) ∧ Shut all taken' := by
  rw [parseMoreArgs]
  refine .takeIf_bind (fun t ht hn => .pure ⟨ha.test hn ht rfl, shut_test ht rfl⟩) ?_
  rw [if_neg Bool.false_ne_true]
  refine .comma_reads h ha fun taken₁ hopens₁ h₁ => ?_
  refine .close_reads (fun _ => rfl) rfl hopens₁ h₁ (fun _ hshut hreads => ⟨hreads, hshut⟩)
    fun taken₂ hopens₂ h₂ => ?_
  refine .peek_bind fun r hr => ?_
  split
  · -- Named arguments to be spread out
    have hstar := h₂.token (hr _ rfl) (by simp)
    refine .discard_bind (hr _ rfl) ?_
    refine (ih.expr (shut_mark (by simp)).opens).bind fun e taken₃ he => ?_
    refine ih.moreArgs (by simp [Args.isEmpty]) ((hstar.trans he).mono fun n hn => ?_)
    simpa [Args.Shows, or_assoc] using hn
  · -- Arguments to be spread out
    have hstar := h₂.token (hr _ rfl) (by simp)
    refine .discard_bind (hr _ rfl) ?_
    refine (ih.expr (shut_mark (by simp)).opens).bind fun e taken₃ he => ?_
    refine ih.moreArgs (by simp [Args.isEmpty]) ((hstar.trans he).mono fun n hn => ?_)
    simpa [Args.Shows, or_assoc, or_comm, or_left_comm] using hn
  · refine (ih.expr hopens₂).bind fun e taken₃ he => ?_
    have hsingle : ∀ {taken'}, Reads all base taken' (fun n => (S n ∨ a.Shows n) ∨ e.Shows n) →
        Ensures all taken'
          (if (!a.named.isEmpty) = true then reject
            else parseMoreArgs fuel { a with args := a.args ++ [(.single, e)] })
          fun a' taken'' => Reads all base taken'' (fun n => S n ∨ a'.Shows n) ∧
            Shut all taken'' := by
      intro taken' hreads
      split
      · exact ensures_reject
      · refine ih.moreArgs (by simp [Args.isEmpty]) (hreads.mono fun n hn => ?_)
        simpa [Args.Shows, or_assoc, or_comm, or_left_comm] using hn
    have hboth := h₂.trans he
    dsimp only
    split
    · -- A name may be that of a named argument, and shows nothing itself.
      refine .takeIf_bind (fun u hu hn => .return_bind ?_) (.return_bind (hsingle hboth))
      refine (ih.plainExpr (shut_test hu rfl).opens).bind fun value taken₄ hvalue => ?_
      refine ih.moreArgs (by simp [Args.isEmpty]) ?_
      exact ((hboth.test hn hu rfl).trans hvalue).mono fun n hn => by
        simpa [Args.Shows, or_assoc] using hn
    · exact .return_bind (hsingle hboth)

end ExprReads

/-- **Every name in front of an opening parenthesis in an expression is shown.** -/
theorem exprReads (all : List Token) (fuel : Nat) : ExprReads all fuel := by
  induction fuel with
  | zero =>
      constructor <;> intros <;>
        simp only [parseExpr, parsePlainExpr, parseConditions, parseLevel, parseOperators,
          parseComparisons, parseNegation, parsePrimary, parseItems, parseEntries, parsePostfix,
          parseFilters, parseOptionalArgs, parseArgs, parseMoreArgs] <;>
        exact ensures_reject
  | succ fuel ih =>
      exact {
        expr := ih.expr_succ
        plainExpr := ih.plainExpr_succ
        conditions := ih.conditions_succ
        level := fun _ => ih.level_succ
        operators := ih.operators_succ
        comparisons := ih.comparisons_succ
        negation := ih.negation_succ
        primary := ih.primary_succ
        items := ih.items_succ
        entries := ih.entries_succ
        suffixes := ih.suffixes_succ
        filters := ih.filters_succ
        optionalArgs := ih.optionalArgs_succ
        args := ih.args_succ
        moreArgs := ih.moreArgs_succ }

end Folio.Template
