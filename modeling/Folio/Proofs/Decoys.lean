/-
Names that stand in front of an opening parenthesis and are not called.

A name that a tree shows in front of parentheses is one of its callees or a `Decoy`: the name of a
test, of a filter block or of a macro, or a name whose value is turned to its opposite before it is
called.  With `fronts_shown` this says what a name in front of an opening parenthesis can be in the
tokens of a template (`called_or_decoy`).
-/
import Folio.Proofs.StmtFronts

namespace Folio.Template

variable {n : String} {body : List Stmt}

/-! ### What is called inside is called -/

theorem optionCallees_eq (o : Option Expr) : optionCallees o = listCallees o.toList := by
  cases o <;> simp [optionCallees, listCallees]

theorem linksCallees_eq (links : List (Link × Expr)) :
    linksCallees links = listCallees (links.map (·.2)) := by
  induction links with
  | nil => rfl
  | cons l rest ih => rw [linksCallees, List.map_cons, listCallees, ih]

theorem argsCallees_eq (args : List (ArgStyle × Expr)) :
    argsCallees args = listCallees (args.map (·.2)) := by
  induction args with
  | nil => rfl
  | cons a rest ih => rw [argsCallees, List.map_cons, listCallees, ih]

theorem namedCallees_eq (named : List (Option String × Expr)) :
    namedCallees named = listCallees (named.map (·.2)) := by
  induction named with
  | nil => rfl
  | cons a rest ih => rw [namedCallees, List.map_cons, listCallees, ih]

theorem entriesCallees_eq (entries : List (Expr × Expr)) :
    entriesCallees entries = listCallees (entries.flatMap fun e => [e.1, e.2]) := by
  induction entries with
  | nil => rfl
  | cons e rest ih =>
      rw [entriesCallees, List.flatMap_cons, listCallees_append, ih]
      simp [listCallees]

mutual

theorem targetCallees_eq : ∀ t : Target, t.callees = listCallees t.objects
  | .var .. => rfl
  | .list _ items => targetsCallees_eq items
  | .attr .. => (List.append_nil _).symm

theorem targetsCallees_eq : ∀ ts : List Target,
    targetsCallees ts = listCallees (targetsObjects ts)
  | [] => rfl
  | t :: rest => by
      rw [targetsCallees, targetsObjects, listCallees_append, targetCallees_eq t,
        targetsCallees_eq rest]

end

theorem mem_listCallees {es : List Expr} : n ∈ listCallees es ↔ ∃ e ∈ es, n ∈ e.callees := by
  induction es with
  | nil => simp [listCallees]
  | cons e rest ih => simp [listCallees, ih]

theorem mem_stmtsCallees : n ∈ stmtsCallees body ↔ ∃ s ∈ body, n ∈ s.callees := by
  induction body with
  | nil => simp [stmtsCallees]
  | cons s rest ih => simp [stmtsCallees, ih]

theorem mem_bindingsCallees {bindings : List (Target × Expr)}
    (hn : n ∈ listCallees (bindings.map (·.2))) : n ∈ bindingsCallees bindings := by
  obtain ⟨e, he, hn⟩ := mem_listCallees.mp hn
  obtain ⟨b, hb, rfl⟩ := List.mem_map.mp he
  exact List.mem_flatMap.mpr ⟨b, hb, List.mem_append_right _ hn⟩

/-- What the expressions inside of an expression call is called in it. -/
theorem Expr.mem_callees_of_children {e : Expr} (hn : n ∈ listCallees e.children) :
    n ∈ e.callees := by
  cases e <;>
    simp only [Expr.children, Expr.callees, listCallees, listCallees_append, optionCallees_eq,
      linksCallees_eq, argsCallees_eq, namedCallees_eq, entriesCallees_eq, List.append_nil,
      List.mem_append, List.append_assoc] at hn ⊢
  case call => exact .inr hn
  all_goals exact hn

theorem Expr.Has.callees {e x : Expr} (h : e.Has x) (hn : n ∈ x.callees) : n ∈ e.callees := by
  induction h with
  | self => exact hn
  | inside child _ ih => exact mem_callees_of_children (mem_listCallees.mpr ⟨_, child, ih hn⟩)

theorem Stmt.mem_callees_of_exprs {s : Stmt} (hn : n ∈ listCallees s.exprs) : n ∈ s.callees := by
  cases s <;>
    simp only [Stmt.exprs, Stmt.callees, listCallees, optionCallees_eq, targetCallees_eq,
      List.append_nil, List.mem_append, List.append_assoc, List.not_mem_nil] at hn ⊢
  case withBlock => exact .inl (mem_bindingsCallees hn)
  case forLoop => exact .inr (hn.imp_right .inl)
  case callBlock => exact hn.imp_right .inl
  case capture => exact .inr (.inl hn)
  all_goals first | exact hn | exact .inl hn | exact .inr hn

theorem Stmt.mem_callees_of_parts {s : Stmt} (hn : n ∈ stmtsCallees s.parts) : n ∈ s.callees := by
  cases s <;>
    simp only [Stmt.parts, Stmt.callees, stmtsCallees, stmtsCallees_append, List.mem_append,
      List.append_assoc, List.not_mem_nil] at hn ⊢
  case forLoop => exact .inr (.inr (.inr hn))
  case callBlock => exact .inr (.inr hn)
  case capture => exact .inr (.inr hn)
  all_goals first | exact hn | exact .inr hn

theorem Stmt.Has.callees {s x : Stmt} (h : s.Has x) (hn : n ∈ x.callees) : n ∈ s.callees := by
  induction h with
  | self => exact hn
  | inside part _ ih => exact mem_callees_of_parts (mem_stmtsCallees.mpr ⟨_, part, ih hn⟩)

/-! ### Decoys -/

/-- A statement stands somewhere in the statements. -/
def BodyHas (body : List Stmt) (x : Stmt) : Prop := ∃ s ∈ body, s.Has x

/-- An expression stands somewhere in the statements. -/
def BodyHasExpr (body : List Stmt) (x : Expr) : Prop :=
  ∃ s, BodyHas body s ∧ ∃ e ∈ s.exprs, e.Has x

/-- What a name in front of an opening parenthesis can be if it is not called. -/
inductive Decoy (body : List Stmt) (n : String) : Prop
  /-- The name of a test with arguments, as in `x is divisibleby(3)`. -/
  | test {line : Nat} {subject : Expr} {args : List (ArgStyle × Expr)}
      {named : List (Option String × Expr)}
      (within : BodyHasExpr body (.test line n subject args named))
  /-- A name with a minus sign before it, which is called after its value is negated. -/
  | negated {line line' : Nat} {e : Expr} {args : List (ArgStyle × Expr)}
      {named : List (Option String × Expr)} (name : n ∈ e.signedName)
      (within : BodyHasExpr body (.call line (.unary line' .neg e) args named))
  /-- The first filter of a filter block. -/
  | filterBlock {line : Nat} {filter : Expr} {inner : List Stmt} (first : n ∈ filter.firstFilter)
      (within : BodyHas body (.filterBlock line filter inner))
  /-- The name of a macro where it is defined. -/
  | macroHeader {line : Nat} {params : List String} {defaults : List Expr} {inner : List Stmt}
      (within : BodyHas body (.defMacro line n params defaults inner))
  /-- A word of the language with a group behind it, as in `1 if (x)`. -/
  | word (known : n ∈ groupWords)

theorem BodyHasExpr.callees {x : Expr} (h : BodyHasExpr body x) (hn : n ∈ x.callees) :
    n ∈ stmtsCallees body := by
  obtain ⟨t, ⟨s, hs, ht⟩, e, he, hx⟩ := h
  refine mem_stmtsCallees.mpr ⟨s, hs, ht.callees (Stmt.mem_callees_of_exprs ?_)⟩
  exact mem_listCallees.mpr ⟨e, he, hx.callees hn⟩

/-- What an expression puts in front of arguments of its own is called or a decoy. -/
theorem called_or_decoy_of_expr {x : Expr} (h : BodyHasExpr body x) (hn : n ∈ x.fronts) :
    n ∈ stmtsCallees body ∨ Decoy body n := by
  cases x with
  | call line callee args named =>
      cases callee with
      | var line' name =>
          refine .inl (h.callees ?_)
          simp only [Expr.fronts, Expr.signedName] at hn
          simp [Expr.callees, Expr.bareName, List.mem_singleton.mp hn]
      | unary line' op e =>
          cases op with
          | neg => exact .inr (.negated (e := e) hn h)
          | not => exact absurd hn List.not_mem_nil
      | _ => exact absurd hn List.not_mem_nil
  | test line name subject args named =>
      rw [List.mem_singleton.mp hn]
      exact .inr (.test h)
  | _ => exact absurd hn List.not_mem_nil

theorem called_or_decoy_of_stmt {x : Stmt} (h : BodyHas body x) (hn : n ∈ x.fronts) :
    Decoy body n := by
  cases x with
  | filterBlock line filter inner => exact .filterBlock hn h
  | defMacro line name params defaults inner =>
      rw [List.mem_singleton.mp hn]
      exact .macroHeader h
  | _ => exact absurd hn List.not_mem_nil

/-- **A name in front of an opening parenthesis is called, or a decoy.** -/
theorem called_or_decoy {source : String} (h : parse source = .ok body) {taken : List Token}
    (hn : Faces (tokensOf source) taken n) : n ∈ stmtsCallees body ∨ Decoy body n := by
  rcases fronts_shown h hn with hword | ⟨s, hs, x, hx, hfront | ⟨e, he, y, hy, hfront⟩⟩
  · exact .inr (.word hword)
  · exact .inr (called_or_decoy_of_stmt ⟨s, hs, hx⟩ hfront)
  · exact called_or_decoy_of_expr ⟨x, ⟨s, hs, hx⟩, e, he, hy⟩ hfront

end Folio.Template
