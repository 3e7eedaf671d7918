/-
Every bare name that a template calls is spelled as a call.

`Expr.callees` and `Stmt.callees` collect, from every corner of a syntax tree, the names that
are called as they stand: `f` in `f(x)`, but not in `a.f(x)` or `x | f`.  The tree no longer
tells what the tokens were, and a callee may have been put in parentheses.  `callees_spelled`
says that there is nothing else: for every callee of a parsed template its tokens contain the
name, as many pairs of parentheses around it as there may be, and an opening parenthesis
behind that; and where there are none around it, the token before it is neither a point nor a
pipe nor a number.

The proof follows the parser.  `Clear` is what the functions for expressions hand on to each
other: the callees collected so far are spelled, and an expression that is still a bare name
consists of all tokens since its start.
-/
import Folio.Proofs.ParseSteps

namespace Folio.Template

/-! ### The names that a template calls -/

/-- The name of an expression that is nothing but a name. -/
def Expr.bareName : Expr → List String
  | .var _ name => [name]
  | _ => []

mutual

/-- The bare names that are called in an expression. -/
def Expr.callees : Expr → List String
  | .const .. | .var .. => []
  | .unary _ _ e | .attr _ e _ => e.callees
  | .binary _ _ a b | .item _ a b => a.callees ++ b.callees
  | .chain _ first links => first.callees ++ linksCallees links
  | .cond _ test yes no => test.callees ++ yes.callees ++ optionCallees no
  | .slice _ e start stop step =>
    e.callees ++ optionCallees start ++ optionCallees stop ++ optionCallees step
  | .call _ callee args named =>
    callee.bareName ++ callee.callees ++ argsCallees args ++ namedCallees named
  | .filter _ _ subject args named =>
    optionCallees subject ++ argsCallees args ++ namedCallees named
  | .test _ _ subject args named => subject.callees ++ argsCallees args ++ namedCallees named
  | .list _ items => listCallees items
  | .map _ entries => entriesCallees entries

def optionCallees : Option Expr → List String
  | none => []
  | some e => e.callees

def listCallees : List Expr → List String
  | [] => []
  | e :: rest => e.callees ++ listCallees rest

def linksCallees : List (Link × Expr) → List String
  | [] => []
  | (_, e) :: rest => e.callees ++ linksCallees rest

def argsCallees : List (ArgStyle × Expr) → List String
  | [] => []
  | (_, e) :: rest => e.callees ++ argsCallees rest

def namedCallees : List (Option String × Expr) → List String
  | [] => []
  | (_, e) :: rest => e.callees ++ namedCallees rest

def entriesCallees : List (Expr × Expr) → List String
  | [] => []
  | (k, v) :: rest => k.callees ++ v.callees ++ entriesCallees rest

end

mutual

/-- The bare names that are called in a target. -/
def Target.callees : Target → List String
  | .var .. => []
  | .list _ items => targetsCallees items
  | .attr _ object _ => object.callees

def targetsCallees : List Target → List String
  | [] => []
  | t :: rest => t.callees ++ targetsCallees rest

end

/-- The bare names that are called in the bindings of a `with` block. -/
def bindingsCallees (bindings : List (Target × Expr)) : List String :=
  bindings.flatMap fun b => b.1.callees ++ b.2.callees

/-- The bare names that are called in the names of an import. -/
def importsCallees (names : List (Target × Option Target)) : List String :=
  names.flatMap fun n => n.1.callees ++ (n.2.map Target.callees).getD []

mutual

/-- The bare names that are called in a statement. -/
def Stmt.callees : Stmt → List String
  | .text .. => []
  | .emit _ e | .extend _ e | .eval _ e | .include _ _ e _ => e.callees
  | .forLoop _ target items filter _ body orElse =>
    target.callees ++ items.callees ++ optionCallees (filter.map (·.2)) ++
      stmtsCallees body ++ stmtsCallees orElse
  | .ifElse _ test yes no => test.callees ++ stmtsCallees yes ++ stmtsCallees no
  | .withBlock _ bindings body => bindingsCallees bindings ++ stmtsCallees body
  | .assign _ target value => target.callees ++ value.callees
  | .capture _ target filter body =>
    target.callees ++ optionCallees filter ++ stmtsCallees body
  | .autoEscape _ e body | .filterBlock _ e body => e.callees ++ stmtsCallees body
  | .block _ _ _ body => stmtsCallees body
  | .importAs _ _ source target => source.callees ++ target.callees
  | .importNames _ _ source names => source.callees ++ importsCallees names
  | .defMacro _ _ _ defaults body => listCallees defaults ++ stmtsCallees body
  | .callBlock _ call _ defaults body =>
    call.callees ++ listCallees defaults ++ stmtsCallees body

/-- The bare names that are called in statements. -/
def stmtsCallees : List Stmt → List String
  | [] => []
  | s :: rest => s.callees ++ stmtsCallees rest

end

/-! ### Collecting from one more element -/

@[simp] theorem listCallees_append (a b : List Expr) :
    listCallees (a ++ b) = listCallees a ++ listCallees b := by
  induction a with
  | nil => rfl
  | cons e rest ih => simp [listCallees, ih]

@[simp] theorem linksCallees_append (a b : List (Link × Expr)) :
    linksCallees (a ++ b) = linksCallees a ++ linksCallees b := by
  induction a with
  | nil => rfl
  | cons e rest ih => simp [linksCallees, ih]

@[simp] theorem argsCallees_append (a b : List (ArgStyle × Expr)) :
    argsCallees (a ++ b) = argsCallees a ++ argsCallees b := by
  induction a with
  | nil => rfl
  | cons e rest ih => simp [argsCallees, ih]

@[simp] theorem namedCallees_append (a b : List (Option String × Expr)) :
    namedCallees (a ++ b) = namedCallees a ++ namedCallees b := by
  induction a with
  | nil => rfl
  | cons e rest ih => simp [namedCallees, ih]

@[simp] theorem entriesCallees_append (a b : List (Expr × Expr)) :
    entriesCallees (a ++ b) = entriesCallees a ++ entriesCallees b := by
  induction a with
  | nil => rfl
  | cons e rest ih => simp [entriesCallees, ih]

@[simp] theorem targetsCallees_append (a b : List Target) :
    targetsCallees (a ++ b) = targetsCallees a ++ targetsCallees b := by
  induction a with
  | nil => rfl
  | cons t rest ih => simp [targetsCallees, ih]

@[simp] theorem stmtsCallees_append (a b : List Stmt) :
    stmtsCallees (a ++ b) = stmtsCallees a ++ stmtsCallees b := by
  induction a with
  | nil => rfl
  | cons s rest ih => simp [stmtsCallees, ih]

theorem stmtsCallees_reverse {b : List Stmt} {n : String} :
    n ∈ stmtsCallees b.reverse ↔ n ∈ stmtsCallees b := by
  induction b with
  | nil => rfl
  | cons s rest ih => simp [stmtsCallees, ih, or_comm]

mutual

theorem target?_callees {n : String} : ∀ {e : Expr} {t : Target}, e.target? = some t →
    n ∈ t.callees → n ∈ e.callees
  | .var .., t, h, hn => by
      simp only [Expr.target?, Option.some.injEq] at h
      subst h
      simp [Target.callees] at hn
  | .attr .., t, h, hn => by
      simp only [Expr.target?, Option.some.injEq] at h
      subst h
      simpa [Target.callees, Expr.callees] using hn
  | .list l items, t, h, hn => by
      simp only [Expr.target?, Option.map_eq_some_iff] at h
      obtain ⟨ts, hts, rfl⟩ := h
      simp only [Target.callees] at hn
      simpa [Expr.callees] using targets?_callees hts hn
  | .const .., _, h, _ | .unary .., _, h, _ | .binary .., _, h, _ | .chain .., _, h, _
  | .cond .., _, h, _ | .item .., _, h, _ | .slice .., _, h, _ | .call .., _, h, _
  | .filter .., _, h, _ | .test .., _, h, _ | .map .., _, h, _ => by
      simp [Expr.target?] at h

theorem targets?_callees {n : String} : ∀ {items : List Expr} {ts : List Target},
    targets? items = some ts → n ∈ targetsCallees ts → n ∈ listCallees items
  | [], ts, h, hn => by
      simp only [targets?, Option.some.injEq] at h
      subst h
      simp [targetsCallees] at hn
  | e :: rest, ts, h, hn => by
      simp only [targets?, Option.bind_eq_bind, Option.bind_eq_some_iff, Option.pure_def,
        Option.some.injEq] at h
      obtain ⟨t, ht, ts', hts, rfl⟩ := h
      simp only [targetsCallees, List.mem_append] at hn
      simp only [listCallees, List.mem_append]
      rcases hn with hn | hn
      · exact Or.inl (target?_callees ht hn)
      · exact Or.inr (targets?_callees hts hn)

end

/-! ### How callees are spelled -/

/-- Whether a name that stands behind a token may be read as an operand of its own. -/
def Token.leadsOperand : Token → Bool
  | .dot | .pipe | .int _ | .float _ => false
  | _ => true

/-- Behind these tokens an operand may begin. -/
def Ready (taken : List Token) : Prop := ∀ t, taken.getLast? = some t → t.leadsOperand = true

theorem ready_concat {t : Token} (taken : List Token) (h : t.leadsOperand = true) :
    Ready (taken ++ [t]) := by
  simpa [Ready] using h

/-- A name inside of `k` pairs of parentheses. -/
def wrapped (k : Nat) (name : String) : List Token :=
  List.replicate k .parenOpen ++ .ident name :: List.replicate k .parenClose

theorem wrapped_succ (k : Nat) (name : String) :
    wrapped (k + 1) name = .parenOpen :: wrapped k name ++ [.parenClose] := by
  rw [wrapped, List.replicate_succ, List.replicate_succ' (a := Token.parenClose)]
  simp [wrapped]

/-- The name, `k` times in parentheses, is followed by an opening parenthesis. -/
def SpelledWithin (k : Nat) (all : List Token) (name : String) : Prop :=
  ∃ before rest, all = before ++ wrapped k name ++ .parenOpen :: rest ∧ Ready before

/-- Every one of the names is spelled as a call somewhere. -/
def Spells (all : List Token) (names : List String) : Prop :=
  ∀ n ∈ names, ∃ k, SpelledWithin k all n

section Spells

variable {all : List Token} {a b : List String}

@[simp] theorem spells_nil : Spells all [] := by
  simp [Spells]

@[simp] theorem spells_append : Spells all (a ++ b) ↔ Spells all a ∧ Spells all b := by
  simp only [Spells, List.mem_append]
  constructor
  · intro h
    exact ⟨fun n hn => h n (Or.inl hn), fun n hn => h n (Or.inr hn)⟩
  · rintro ⟨ha, hb⟩ n (hn | hn)
    · exact ha n hn
    · exact hb n hn

end Spells

/-- What is known of an expression that has been read from `start` on: its callees are
spelled, and if it is a bare name there is nothing else to it. -/
structure Clear (all start : List Token) (e : Expr) (taken : List Token) : Prop where
  spelled : Spells all e.callees
  bare : ∀ line name, e = .var line name → ∃ k, taken = start ++ wrapped k name

/-- Arguments whose callees are spelled. -/
def Args.Clear (all : List Token) (a : Args) : Prop :=
  Spells all (argsCallees a.args) ∧ Spells all (namedCallees a.named)

section Clear

variable {all start taken : List Token} {e : Expr}

/-- An expression that is no bare name only has to have its callees spelled. -/
theorem Clear.of_spells (hvar : ∀ line name, e ≠ .var line name) (h : Spells all e.callees) :
    Clear all start e taken :=
  ⟨h, fun line name he => absurd he (hvar line name)⟩

theorem Clear.compared {links : List (Link × Expr)} {taken' : List Token} (line : Nat)
    (h : Clear all start e taken) (hlinks : Spells all (linksCallees links))
    (hnone : links = [] → taken' = taken) :
    Clear all start (e.compared line links) taken' := by
  unfold Expr.compared
  split
  · rw [hnone rfl]
    exact h
  · rename_i link right
    simp only [linksCallees, List.append_nil] at hlinks
    split <;> exact .of_spells (by simp) (by simp [Expr.callees, h.spelled, hlinks])
  · exact .of_spells (by simp) (by simp [Expr.callees, h.spelled, hlinks])

/-- A bare name with an opening parenthesis behind it is spelled as a call. -/
theorem Clear.spells_bareName (h : Clear all start e taken) (hstart : Ready start)
    (hnext : Parse.Next all taken .parenOpen) : Spells all e.bareName := by
  intro n hn
  cases e with
  | var line name =>
      simp only [Expr.bareName, List.mem_singleton] at hn
      subst hn
      obtain ⟨k, hk⟩ := h.bare line n rfl
      obtain ⟨rest, hrest⟩ := hnext
      exact ⟨k, start, rest, by rw [hrest, hk], hstart⟩
  | _ => simp [Expr.bareName] at hn

end Clear

end Folio.Template
