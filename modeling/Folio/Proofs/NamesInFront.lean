/-
Names in front of an opening parenthesis.

Not every name that stands in front of an opening parenthesis is called.  It may be the name of a
test, of the first filter of a filter block or of a macro; with a minus sign before it, the call
is one of the opposite of its value; and a word of the language may come before a group.  `Shows`
collects from a syntax tree what it has to show for such names, and `Reads` says that it is enough:
every name that stands in front of an opening parenthesis among the tokens read is shown, or is a
word of the language.

An obligation comes up only where an opening parenthesis is taken, and rests on the token before
it.  So what the parser's functions have to hand on to each other is little: `Opens`, that a group
may begin here since nothing but a word of the language can stand before it; `Shut`, that no name
is the last token; and for an operand `Ends`, that only its own name can be.
-/
import Folio.Proofs.Callees

namespace Folio.Template

open Parse

/-! ### What a tree shows -/

/-- The expressions directly inside of an expression. -/
def Expr.children : Expr → List Expr
  | .const .. | .var .. => []
  | .unary _ _ e | .attr _ e _ => [e]
  | .binary _ _ a b | .item _ a b => [a, b]
  | .chain _ first links => first :: links.map (·.2)
  | .cond _ c yes no => c :: yes :: no.toList
  | .slice _ e start stop step => e :: (start.toList ++ stop.toList ++ step.toList)
  | .call _ callee args named => callee :: (args.map (·.2) ++ named.map (·.2))
  | .filter _ _ subject args named => subject.toList ++ args.map (·.2) ++ named.map (·.2)
  | .test _ _ subject args named => subject :: (args.map (·.2) ++ named.map (·.2))
  | .list _ items => items
  | .map _ entries => entries.flatMap fun e => [e.1, e.2]

/-- An expression has itself and what the expressions inside of it have. -/
inductive Expr.Has : Expr → Expr → Prop
  | self (e : Expr) : Has e e
  | inside {e c x : Expr} (child : c ∈ e.children) (has : Has c x) : Has e x

/-- The name of an expression that is nothing but a name, perhaps behind minus signs. -/
def Expr.signedName : Expr → List String
  | .var _ name => [name]
  | .unary _ .neg e => e.signedName
  | _ => []

/-- The names that an expression puts in front of arguments of its own. -/
def Expr.fronts : Expr → List String
  | .call _ callee _ _ => callee.signedName
  | .test _ name _ _ _ => [name]
  | _ => []

/-- The name stands in front of arguments somewhere in the expression. -/
def Expr.Shows (e : Expr) (n : String) : Prop := ∃ x, e.Has x ∧ n ∈ x.fronts

/-- The name stands in front of arguments somewhere in one of the expressions. -/
def AnyShows (es : List Expr) (n : String) : Prop := ∃ e ∈ es, e.Shows n

section Shows

variable {line : Nat} {n name : String} {a b e : Expr} {es es' : List Expr}
  {args : List (ArgStyle × Expr)} {named : List (Option String × Expr)}

attribute [local simp] Expr.fronts Expr.children

@[simp] theorem anyShows_nil : ¬ AnyShows [] n := by
  simp [AnyShows]

@[simp] theorem anyShows_cons : AnyShows (e :: es) n ↔ e.Shows n ∨ AnyShows es n := by
  simp [AnyShows]

@[simp] theorem anyShows_append : AnyShows (es ++ es') n ↔ AnyShows es n ∨ AnyShows es' n := by
  simp [AnyShows, or_and_right, exists_or]

theorem Expr.shows_iff : e.Shows n ↔ n ∈ e.fronts ∨ AnyShows e.children n := by
  constructor
  · rintro ⟨x, hhas, hn⟩
    cases hhas with
    | self => exact .inl hn
    | inside child has => exact .inr ⟨_, child, x, has, hn⟩
  · rintro (hn | ⟨c, child, x, has, hn⟩)
    · exact ⟨e, .self e, hn⟩
    · exact ⟨x, .inside child has, hn⟩

@[simp] theorem shows_const {value : Literal} : ¬ (Expr.const line value).Shows n := by
  simp [Expr.shows_iff]

@[simp] theorem shows_var : ¬ (Expr.var line name).Shows n := by
  simp [Expr.shows_iff]

@[simp] theorem shows_unary {op : UnaryOp} : (Expr.unary line op e).Shows n ↔ e.Shows n := by
  rw [Expr.shows_iff]
  simp

@[simp] theorem shows_attr : (Expr.attr line e name).Shows n ↔ e.Shows n := by
  rw [Expr.shows_iff]
  simp

@[simp] theorem shows_binary {op : BinaryOp} :
    (Expr.binary line op a b).Shows n ↔ a.Shows n ∨ b.Shows n := by
  rw [Expr.shows_iff]
  simp

@[simp] theorem shows_item : (Expr.item line a b).Shows n ↔ a.Shows n ∨ b.Shows n := by
  rw [Expr.shows_iff]
  simp

@[simp] theorem shows_chain {links : List (Link × Expr)} :
    (Expr.chain line e links).Shows n ↔ e.Shows n ∨ AnyShows (links.map (·.2)) n := by
  rw [Expr.shows_iff]
  simp

@[simp] theorem shows_cond {no : Option Expr} : (Expr.cond line a b no).Shows n ↔
    a.Shows n ∨ b.Shows n ∨ AnyShows no.toList n := by
  rw [Expr.shows_iff]
  simp

@[simp] theorem shows_slice {start stop step : Option Expr} :
    (Expr.slice line e start stop step).Shows n ↔ e.Shows n ∨ AnyShows start.toList n ∨
      AnyShows stop.toList n ∨ AnyShows step.toList n := by
  rw [Expr.shows_iff]
  simp

@[simp] theorem shows_call : (Expr.call line e args named).Shows n ↔ n ∈ e.signedName ∨
    e.Shows n ∨ AnyShows (args.map (·.2)) n ∨ AnyShows (named.map (·.2)) n := by
  rw [Expr.shows_iff]
  simp

@[simp] theorem shows_filter {subject : Option Expr} :
    (Expr.filter line name subject args named).Shows n ↔ AnyShows subject.toList n ∨
      AnyShows (args.map (·.2)) n ∨ AnyShows (named.map (·.2)) n := by
  rw [Expr.shows_iff]
  simp

@[simp] theorem shows_test : (Expr.test line name e args named).Shows n ↔ n = name ∨
    e.Shows n ∨ AnyShows (args.map (·.2)) n ∨ AnyShows (named.map (·.2)) n := by
  rw [Expr.shows_iff]
  simp

@[simp] theorem shows_list : (Expr.list line es).Shows n ↔ AnyShows es n := by
  rw [Expr.shows_iff]
  simp

@[simp] theorem shows_map {entries : List (Expr × Expr)} :
    (Expr.map line entries).Shows n ↔ AnyShows (entries.flatMap fun e => [e.1, e.2]) n := by
  rw [Expr.shows_iff]
  simp

/-- An operand shows what it showed before and what the comparisons behind it show. -/
@[simp] theorem shows_compared {links : List (Link × Expr)} :
    (e.compared line links).Shows n ↔ e.Shows n ∨ AnyShows (links.map (·.2)) n := by
  unfold Expr.compared
  split
  · simp
  · split <;> simp
  · simp

end Shows

/-! ### Names among the tokens -/

/-- Whether a name that stands behind a token and in front of an opening parenthesis may be
called. -/
def Token.leadsCall : Token → Bool
  | .dot | .pipe => false
  | _ => true

/-- The words of the language that a group in parentheses may follow. -/
def groupWords : List String :=
  ["true", "True", "false", "False", "none", "None", "and", "or", "not", "in", "if", "else",
    "elif", "for", "with", "set", "autoescape", "extends", "include", "import", "from", "as",
    "call", "do"]

/-- The tokens taken end with a name that is neither behind a point nor behind a pipe, and the next
token is an opening parenthesis. -/
def Faces (all taken : List Token) (n : String) : Prop :=
  ∃ before rest, taken = before ++ [.ident n] ∧ all = taken ++ .parenOpen :: rest ∧
    ∀ t, before.getLast? = some t → t.leadsCall = true

/-- No name stands in front of an opening parenthesis here. -/
def Shut (all taken : List Token) : Prop := ∀ n, ¬ Faces all taken n

/-- If a group in parentheses begins here, there is a word of the language before it. -/
def Opens (all taken : List Token) : Prop := ∀ n, Faces all taken n → n ∈ groupWords

/-- If arguments follow here, they follow the name of the operand or a word of the language. -/
def Ends (all taken : List Token) (e : Expr) : Prop :=
  ∀ n, Faces all taken n → n ∈ groupWords ∨ n ∈ e.signedName

/-- Every name in front of an opening parenthesis that is taken behind `start` is in `S`, or is a
word of the language. -/
def Reads (all start taken : List Token) (S : String → Prop) : Prop :=
  ∀ mid n, Faces all mid n → start.length ≤ mid.length → mid.length < taken.length →
    n ∈ groupWords ∨ S n

section Faces

variable {all start taken taken' : List Token} {t : Token} {n s : String} {e : Expr}
  {S T : String → Prop}

theorem Faces.last (h : Faces all (taken ++ [t]) n) : t = .ident n := by
  obtain ⟨before, rest, heq, -, -⟩ := h
  exact (List.append_inj' heq rfl).2 |> fun h => (List.cons.inj h).1

/-- A name in front of an opening parenthesis stands behind no point and no pipe. -/
theorem Faces.leadsCall (h : Faces all (taken ++ [.ident s]) n) :
    n = s ∧ ∀ t, taken.getLast? = some t → t.leadsCall = true := by
  have hlast := h.last
  obtain ⟨before, rest, heq, -, hlead⟩ := h
  cases hlast
  rw [(List.append_inj' heq rfl).1]
  exact ⟨rfl, hlead⟩

theorem Faces.next (h : Faces all taken n) (ht : Next all taken t) : t = .parenOpen := by
  obtain ⟨-, rest, -, hall, -⟩ := h
  exact ht.unique ⟨rest, hall⟩

theorem Shut.opens (h : Shut all taken) : Opens all taken := fun n hn => absurd hn (h n)

theorem Shut.ends (h : Shut all taken) : Ends all taken e := fun n hn => absurd hn (h n)

theorem shut_mark (ht : ∀ n, t ≠ .ident n) : Shut all (taken ++ [t]) :=
  fun n hn => ht n hn.last

/-- A name behind a point or a pipe is not called. -/
theorem shut_member (ht : t.leadsCall = false) : Shut all (taken ++ [t] ++ [.ident s]) :=
  fun n hn => by
    rw [hn.leadsCall.2 t (by simp)] at ht
    cases ht

/-- A token that passes a test which no name passes is a mark. -/
theorem shut_test {p : Token → Bool} (ht : p t = true)
    (hp : (fun n => p (.ident n)) = fun _ => false) : Shut all (taken ++ [t]) :=
  shut_mark fun n hn => by
    rw [hn] at ht
    cases (congrFun hp n).symm.trans ht

theorem ne_parenOpen {p : Token → Bool} (ht : p t = true) (hopen : p .parenOpen = false) :
    t ≠ .parenOpen := by
  rintro rfl
  rw [hopen] at ht
  cases ht

theorem Token.isWord_iff {w : String} : t.isWord w = true ↔ t = .ident w := by
  cases t <;> simp [Token.isWord]

theorem opens_word {w : String} (ht : t.isWord w = true) (hw : w ∈ groupWords) :
    Opens all (taken ++ [t]) := by
  rw [Token.isWord_iff] at ht
  intro n hn
  cases ht.symm.trans hn.last
  exact hw

namespace Reads

theorem refl : Reads all taken taken S := by
  intro mid n _ hstart hlt
  omega

theorem mono (h : Reads all start taken S) (hST : ∀ n, S n → T n) : Reads all start taken T :=
  fun mid n hn hstart hlt => (h mid n hn hstart hlt).imp_right (hST n)

theorem trans (h : Reads all start taken S) (h' : Reads all taken taken' T) :
    Reads all start taken' fun n => S n ∨ T n := by
  intro mid n hn hstart hlt
  by_cases hmid : mid.length < taken.length
  · exact (h mid n hn hstart hmid).imp_right .inl
  · exact (h' mid n hn (by omega) hlt).imp_right .inr

/-- One more token; if it is an opening parenthesis, the name before it has to be known. -/
theorem take (h : Reads all start taken S) (ht : Next all taken t)
    (hopen : t = .parenOpen → ∀ n, Faces all taken n → n ∈ groupWords ∨ S n) :
    Reads all start (taken ++ [t]) S := by
  intro mid n hn hstart hlt
  by_cases hmid : mid.length < taken.length
  · exact h mid n hn hstart hmid
  · rw [List.length_append, List.length_singleton] at hlt
    obtain ⟨before, rest, hbefore, hall, hlead⟩ := hn
    obtain ⟨rest', ht⟩ := ht
    obtain ⟨heq, htail⟩ := List.append_inj (hall.symm.trans ht) (by omega)
    refine hopen (List.cons.inj htail).1.symm n ?_
    rw [← heq]
    exact ⟨before, rest, hbefore, hall, hlead⟩

theorem token (h : Reads all start taken S) (ht : Next all taken t) (hne : t ≠ .parenOpen) :
    Reads all start (taken ++ [t]) S :=
  h.take ht fun heq => absurd heq hne

theorem test {p : Token → Bool} (h : Reads all start taken S) (ht : Next all taken t)
    (hp : p t = true) (hopen : p .parenOpen = false) : Reads all start (taken ++ [t]) S :=
  h.token ht (ne_parenOpen hp hopen)

/-- What is read behind a token is all that is read from the token on. -/
theorem behind (ht : Next all start t) (hne : t ≠ .parenOpen)
    (h : Reads all (start ++ [t]) taken S) : Reads all start taken S :=
  ((refl.token ht hne).trans h).mono fun _ hn => hn.elim id id

theorem group (h : Reads all start taken S) (ht : Next all taken t) (hopens : Opens all taken) :
    Reads all start (taken ++ [t]) S :=
  h.take ht fun _ n hn => .inl (hopens n hn)

end Reads

end Faces

end Folio.Template
