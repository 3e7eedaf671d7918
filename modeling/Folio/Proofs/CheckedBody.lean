/-
The scan of a body, with every read of a byte and every cut checked.

The names that are called in the body of a tag can be found by a loop over places.  It reads the
body byte by byte, and a literal, a word and the blanks behind a word are loops within it.  Nothing
says beforehand that these loops read only where there is a byte, cut only between characters and
come to an end, so here a step is a function that may be refused (`CheckedLoop`).

Three things are shown together for each step (`CheckedLoop.Onward`).  It is not refused: a byte is
read only in front of the end, and a name is cut out between bytes of ASCII.  There is less left to
do behind it (`Cursor.left`): an inner loop comes closer to the end of the body, or it is over and
the outer one has passed a byte.  And it does not change the names that are found in the end
(`BodyScan.all`), for which the places go with what the scan of characters has left to read
(`Cursor.pending`).  A literal that is not closed may take the place behind the end of the body, and
there the bytes that are left are none.
-/
import Mathlib.Data.Prod.Lex
import Folio.Proofs.TextPlaces

namespace Folio.Template

/-! ### Loops whose steps may be refused -/

/-- A step of a loop: it is refused, or the loop is over, or it goes on to another state. -/
abbrev CheckedLoop (σ : Type) := σ → Except Misread (Option σ)

namespace CheckedLoop

variable {σ μ α : Type}

/-- The states that a loop passes through. -/
inductive Passes (step : CheckedLoop σ) : σ → σ → Prop
  | here (s : σ) : Passes step s s
  | next {s t u : σ} (goes : step s = .ok (some t)) (later : Passes step t u) : Passes step s u

/-- The step is not refused, and if the loop goes on then with less left to do. -/
def Proceeds [LT μ] (step : CheckedLoop σ) (left : σ → μ) (s : σ) : Prop :=
  step s = .ok none ∨ ∃ t, step s = .ok (some t) ∧ left t < left s

/-- The loop comes to this end, and at each state on the way it proceeds. -/
structure Completes [LT μ] (step : CheckedLoop σ) (left : σ → μ) (s t : σ) : Prop where
  passes : Passes step s t
  stops : step t = .ok none
  proceeds : ∀ u, Passes step s u → Proceeds step left u

/-- The loop is over and has found all that there is. -/
structure Over (step : CheckedLoop σ) (all found : σ → α) (s : σ) : Prop where
  stops : step s = .ok none
  found_eq : found s = all s

/-- From one state the loop goes on to the other, with less left to do and as much to find. -/
structure Onward [LT μ] (step : CheckedLoop σ) (left : σ → μ) (all : σ → α) (s t : σ) : Prop where
  goes : step s = .ok (some t)
  less : left t < left s
  all_eq : all t = all s

/-- Where the property holds the loop is over, or goes on to a state where the property holds. -/
def Finds [LT μ] (step : CheckedLoop σ) (left : σ → μ) (all found : σ → α) (I : σ → Prop) : Prop :=
  ∀ s, I s → Over step all found s ∨ ∃ t, Onward step left all s t ∧ I t

variable {step : CheckedLoop σ} {left : σ → μ} {all found : σ → α} {I : σ → Prop} {s t : σ}

theorem Finds.passes [LT μ] (h : Finds step left all found I) (run : Passes step s t) (hs : I s) :
    I t ∧ all t = all s := by
  induction run with
  | here s => exact ⟨hs, rfl⟩
  | next goes later ih =>
      rcases h _ hs with hover | ⟨u, hu, hI⟩
      · rw [hover.stops] at goes
        cases goes
      · rw [hu.goes] at goes
        cases goes
        obtain ⟨ht, hall⟩ := ih hI
        exact ⟨ht, hall.trans hu.all_eq⟩

theorem Finds.proceeds [LT μ] (h : Finds step left all found I) (hs : I s) (run : Passes step s t) :
    Proceeds step left t := by
  rcases h t (h.passes run hs).1 with hover | ⟨u, hu, -⟩
  · exact .inl hover.stops
  · exact .inr ⟨u, hu.goes, hu.less⟩

theorem Finds.exists_over [Preorder μ] [WellFoundedLT μ] (h : Finds step left all found I)
    (hs : I s) : ∃ t, Passes step s t ∧ Over step all found t := by
  induction s using (InvImage.wf left wellFounded_lt).induction with
  | _ s ih =>
      rcases h s hs with hover | ⟨u, hu, hI⟩
      · exact ⟨s, .here s, hover⟩
      · obtain ⟨t, hpasses, hover⟩ := ih u hu.less hI
        exact ⟨t, .next hu.goes hpasses, hover⟩

/-- **A loop that has less left to do at each step comes to an end and has found all.** -/
theorem Finds.completes [Preorder μ] [WellFoundedLT μ] (h : Finds step left all found I)
    (hs : I s) : ∃ t, Completes step left s t ∧ found t = all s := by
  obtain ⟨t, hpasses, hover⟩ := h.exists_over hs
  exact ⟨t, ⟨hpasses, hover.stops, fun _ => h.proceeds hs⟩,
    hover.found_eq.trans (h.passes hpasses hs).2⟩

end CheckedLoop

/-! ### The scan of a body -/

/-- The byte at a place, if the place is not behind the last byte. -/
def byteBefore? (s : String) (place : Nat) : Except Misread (Option Char) :=
  if place < s.utf8ByteSize then (byteAt s place).map some else .ok none

/-- Where the scan of a body stands. -/
inductive Cursor where
  /-- Between two pieces; `before` is the last byte that is no blank. -/
  | between (before : Char) (place : Nat)
  /-- In a literal. -/
  | literal (quote : Char) (place : Nat)
  /-- In a word. -/
  | word (before : Char) (start place : Nat)
  /-- Behind a word, at blanks. -/
  | ahead (before : Char) (start stop place : Nat)

/-- The place of the byte that is read next. -/
def Cursor.place : Cursor → Nat
  | .between _ place => place
  | .literal _ place => place
  | .word _ _ place => place
  | .ahead _ _ _ place => place

/-- The scan of a body, with the names that have been found. -/
structure BodyScan where
  cursor : Cursor
  names : List String

namespace BodyScan

/-- Moves the cursor. -/
def moveTo (s : BodyScan) (cursor : Cursor) : Option BodyScan := some { s with cursor }

/-- What becomes of the scan with the byte at its place, or at the end of the body. -/
def turn (body : String) (s : BodyScan) (b? : Option Char) : Except Misread (Option BodyScan) :=
  match s.cursor, b? with
  | .between _ _, none => .ok none
  | .between before i, some b =>
    if b = '\'' ∨ b = '"' then .ok (s.moveTo (.literal b (i + 1)))
    else if Text.isWordStart b then .ok (s.moveTo (.word before i i))
    else .ok (s.moveTo (.between (if Text.isTagBlank b then before else b) (i + 1)))
  | .literal quote i, none => .ok (s.moveTo (.between quote (i + 1)))
  | .literal quote i, some b =>
    if b = quote then .ok (s.moveTo (.between quote (i + 1)))
    else if b = '\\' then .ok (s.moveTo (.literal quote (i + 2)))
    else .ok (s.moveTo (.literal quote (i + 1)))
  | .word before start i, b? =>
    if b?.any Text.isWordChar then .ok (s.moveTo (.word before start (i + 1)))
    else .ok (s.moveTo (.ahead before start i i))
  | .ahead before start stop i, b? =>
    if b?.any Text.isTagBlank then .ok (s.moveTo (.ahead before start stop (i + 1)))
    else if b? = some '(' ∧ before ≠ '.' ∧ before ≠ '|' then
      (pieceOf body start stop).map fun name => some ⟨.between 'a' stop, s.names ++ [name]⟩
    else .ok (s.moveTo (.between 'a' stop))

/-- One iteration of the loop over the body, or of one of the loops within it. -/
def step (body : String) : CheckedLoop BodyScan := fun s => do
  turn body s (← byteBefore? body s.cursor.place)

/-- The scan before its first step. -/
def start : BodyScan := ⟨.between ' ' 0, []⟩

end BodyScan

/-- What is left to do: the bytes that the loop over the body has not passed, then the rank of the
loop within it, then the bytes that this loop has not passed. -/
def Cursor.left (size : Nat) : Cursor → ℕ ×ₗ ℕ ×ₗ ℕ
  | .between _ i => toLex (size - i, toLex (3, 0))
  | .literal _ i => toLex (size - i, toLex (4, 0))
  | .word _ start i => toLex (size - start, toLex (2, size - i))
  | .ahead _ start _ i => toLex (size - start, toLex (1, size - i))

theorem byteBefore?_eq {s : String} {place : Nat} :
    byteBefore? s place = .ok ((bytesOf s).drop place).head? := by
  rw [byteBefore?, ← length_bytesOf]
  cases hdrop : (bytesOf s).drop place with
  | nil =>
      rw [if_neg (Nat.not_lt.mpr (List.drop_eq_nil_iff.mp hdrop))]
      rfl
  | cons b rest =>
      rw [if_pos (lt_of_drop hdrop), byteAt_of_drop hdrop]
      rfl

/-- The bytes of a word that have been read. -/
structure WordRead (bytes : List Char) (start stop : Nat) (w : List Char) : Prop where
  cut : bytes.drop start = w ++ bytes.drop stop
  stop_eq : stop = start + w.length
  chars : ∀ d ∈ w, Text.isWordChar d = true

/-- What has been read agrees with where the cursor stands. -/
def Cursor.Sound (bytes : List Char) : Cursor → Prop
  | .between _ _ => True
  | .literal quote _ => quote = '\'' ∨ quote = '"'
  | .word _ start i => ∃ w, WordRead bytes start i w ∧
      ∃ c, (bytes.drop start).head? = some c ∧ Text.isWordStart c = true
  | .ahead _ start stop i => ∃ c w, Text.isWordStart c = true ∧ WordRead bytes start stop (c :: w) ∧
      (∀ d, (bytes.drop stop).head? = some d → Text.isWordChar d = false) ∧
      (bytes.drop stop).dropWhile Text.isTagBlank = (bytes.drop i).dropWhile Text.isTagBlank

/-- The names that the scan finds from here on. -/
def Cursor.pending (bytes : List Char) : Cursor → List (List Char)
  | .between before i => Calls.namesIn before (bytes.drop i)
  | .literal quote i => Calls.namesIn quote (Calls.afterQuote quote (bytes.drop i))
  | .word before start _ => Calls.namesIn before (bytes.drop start)
  | .ahead before start _ _ => Calls.namesIn before (bytes.drop start)

section Steps

variable {bytes rest w : List Char} {b : Char} {start stop m n : Nat}

theorem head?_or (p : Char → Bool) (cs : List Char) :
    (∃ b rest, cs = b :: rest ∧ p b = true) ∨
      ¬ cs.head?.any p = true ∧ ∀ d, cs.head? = some d → p d = false := by
  cases cs with
  | nil => exact .inr ⟨Bool.false_ne_true, by simp⟩
  | cons b rest =>
      cases hb : p b with
      | true => exact .inl ⟨b, rest, rfl, hb⟩
      | false => exact .inr ⟨by simp [hb], by simp [hb]⟩

theorem WordRead.next (h : WordRead bytes start stop w) (hdrop : bytes.drop stop = b :: rest)
    (hb : Text.isWordChar b = true) : WordRead bytes start (stop + 1) (w ++ [b]) where
  cut := by rw [h.cut, hdrop, drop_succ hdrop, List.append_assoc, List.singleton_append]
  stop_eq := by rw [h.stop_eq, List.length_append, List.length_singleton, Nat.add_assoc]
  chars d hd := by
    rcases List.mem_append.mp hd with hd | hd
    · exact h.chars d hd
    · rwa [List.mem_singleton.mp hd]

theorem left_lt {α : Type} [LT α] {x y : α} (h : m < n) :
    (toLex (m, x) : ℕ ×ₗ α) < toLex (n, y) :=
  Prod.Lex.toLex_lt_toLex.mpr (.inl h)

theorem inner_lt {α : Type} [LT α] {x y : α} (h : x < y) :
    (toLex (n, x) : ℕ ×ₗ α) < toLex (n, y) :=
  Prod.Lex.toLex_lt_toLex.mpr (.inr ⟨rfl, h⟩)

end Steps

namespace BodyScan

variable {body : String} {names : List String} {before quote : Char} {i start stop : Nat}

/-- The names that have been found and those that are found from here on. -/
def all (body : String) (s : BodyScan) : List String :=
  s.names ++ (s.cursor.pending (bytesOf body)).map String.ofList

/-- What is left to do of the scan of a body. -/
def left (body : String) (s : BodyScan) : ℕ ×ₗ ℕ ×ₗ ℕ := s.cursor.left body.utf8ByteSize

/-- What has been read of the body agrees with where the scan stands. -/
def Sound (body : String) (s : BodyScan) : Prop := s.cursor.Sound (bytesOf body)

/-- The scan goes on. -/
def GoesOn (body : String) (s : BodyScan) : Prop :=
  ∃ t, (step body).Onward (left body) (all body) s t ∧ t.Sound body

theorem step_eq (s : BodyScan) :
    step body s = turn body s ((bytesOf body).drop s.cursor.place).head? := by
  rw [step, byteBefore?_eq]
  rfl

theorem goesOn_of_moves {c : Cursor} {bytes : List Char} (c' : Cursor)
    (hbytes : (bytesOf body).drop c.place = bytes)
    (goes : turn body ⟨c, names⟩ bytes.head? = .ok (some ⟨c', names⟩))
    (less : c'.left (bytesOf body).length < c.left (bytesOf body).length)
    (pending : c'.pending (bytesOf body) = c.pending (bytesOf body))
    (sound : c'.Sound (bytesOf body)) : GoesOn body ⟨c, names⟩ := by
  refine ⟨⟨c', names⟩, ⟨?_, ?_, ?_⟩, sound⟩
  · rw [step_eq, hbytes, goes]
  · rw [left, left, ← length_bytesOf]
    exact less
  · rw [all, all, pending]

theorem step_between :
    (step body).Over (all body) BodyScan.names ⟨.between before i, names⟩ ∨
      GoesOn body ⟨.between before i, names⟩ := by
  cases hdrop : (bytesOf body).drop i with
  | nil =>
      refine .inl ⟨?_, ?_⟩
      · rw [step_eq, Cursor.place, hdrop]
        rfl
      · rw [all, Cursor.pending, hdrop, Calls.namesIn, List.map_nil, List.append_nil]
  | cons b rest =>
      have hlt := lt_of_drop hdrop
      have hrest := drop_succ hdrop
      refine .inr ?_
      by_cases hquote : b = '\'' ∨ b = '"'
      · refine goesOn_of_moves (.literal b (i + 1)) hdrop (if_pos hquote)
          (left_lt (by omega)) ?_ hquote
        rw [Cursor.pending, Cursor.pending, hdrop, hrest, namesIn_quote hquote]
      · cases hword : Text.isWordStart b with
        | true =>
            have hhead : ((bytesOf body).drop i).head? = some b := by rw [hdrop, List.head?_cons]
            exact goesOn_of_moves (.word before i i) hdrop ((if_neg hquote).trans (if_pos hword))
              (inner_lt (left_lt (by decide))) rfl ⟨[], ⟨rfl, rfl, by simp⟩, b, hhead, hword⟩
        | false =>
            have hnoword : ¬ Text.isWordStart b = true := by simp [hword]
            refine goesOn_of_moves (.between (if Text.isTagBlank b then before else b) (i + 1))
              hdrop ((if_neg hquote).trans (if_neg hnoword)) (left_lt (by omega)) ?_ trivial
            rw [not_or] at hquote
            rw [Cursor.pending, Cursor.pending, hdrop, hrest,
              namesIn_skip hquote.2 hquote.1 hword]

theorem step_literal (hquote : quote = '\'' ∨ quote = '"') :
    GoesOn body ⟨.literal quote i, names⟩ := by
  cases hdrop : (bytesOf body).drop i with
  | nil =>
      -- The literal is not closed, and the place may be far behind the end.
      have hafter : (bytesOf body).drop (i + 1) = [] := by
        rw [← List.tail_drop, hdrop, List.tail_nil]
      have hleft : (bytesOf body).length - (i + 1) = (bytesOf body).length - i := by
        have hle := List.drop_eq_nil_iff.mp hdrop
        omega
      refine goesOn_of_moves (.between quote (i + 1)) hdrop rfl ?_ ?_ trivial
      · rw [Cursor.left, Cursor.left, hleft]
        exact inner_lt (left_lt (by decide))
      · rw [Cursor.pending, Cursor.pending, hdrop, hafter, Calls.afterQuote]
  | cons b rest =>
      have hlt := lt_of_drop hdrop
      have hrest := drop_succ hdrop
      by_cases hclose : b = quote
      · refine goesOn_of_moves (.between quote (i + 1)) hdrop (if_pos hclose)
          (left_lt (by omega)) ?_ trivial
        rw [Cursor.pending, Cursor.pending, hdrop, hrest, hclose,
          afterQuote_cons (quote_ne_backslash hquote), if_pos rfl]
      · by_cases hback : b = '\\'
        · refine goesOn_of_moves (.literal quote (i + 2)) hdrop
            ((if_neg hclose).trans (if_pos hback)) (left_lt (by omega)) ?_ hquote
          have hrest' : (bytesOf body).drop (i + 2) = rest.tail := by
            rw [← hrest, List.tail_drop]
          rw [Cursor.pending, Cursor.pending, hdrop, hrest', hback]
          cases rest with
          | nil =>
              rw [List.tail_nil, Calls.afterQuote.eq_3 _ _ _ (by simp),
                if_neg (quote_ne_backslash hquote).symm]
          | cons c more => rfl
        · refine goesOn_of_moves (.literal quote (i + 1)) hdrop
            ((if_neg hclose).trans (if_neg hback)) (left_lt (by omega)) ?_ hquote
          rw [Cursor.pending, Cursor.pending, hdrop, hrest, afterQuote_cons hback, if_neg hclose]

theorem step_word (h : (Cursor.word before start i).Sound (bytesOf body)) :
    GoesOn body ⟨.word before start i, names⟩ := by
  obtain ⟨w, hread, c, hhead, hstart⟩ := h
  rcases head?_or Text.isWordChar ((bytesOf body).drop i) with
    ⟨b, rest, hdrop, hchar⟩ | ⟨hend, hlongest⟩
  · have hlt := lt_of_drop hdrop
    exact goesOn_of_moves (.word before start (i + 1)) hdrop (if_pos hchar)
      (inner_lt (inner_lt (by omega))) rfl
      ⟨w ++ [b], hread.next hdrop hchar, c, hhead, hstart⟩
  · refine goesOn_of_moves (.ahead before start i i) rfl (if_neg hend)
      (inner_lt (left_lt (by decide))) rfl ?_
    cases w with
    | nil =>
        -- The first byte has been found to begin a word.
        have hsame : (bytesOf body).drop start = (bytesOf body).drop i := hread.cut
        have hword := Text.isWordChar_of_isWordStart hstart
        rw [hlongest c (hsame ▸ hhead)] at hword
        cases hword
    | cons d w =>
        have hd : d = c := by
          rw [hread.cut] at hhead
          exact Option.some.inj hhead
        exact ⟨d, w, hd ▸ hstart, hread, hlongest, rfl⟩

/-- Behind a word the scan finds the word if it is called, and then goes on behind it. -/
theorem pending_ahead {c : Char} {w : List Char} (hstart : Text.isWordStart c = true)
    (hread : WordRead (bytesOf body) start stop (c :: w))
    (hlongest : ∀ d, ((bytesOf body).drop stop).head? = some d → Text.isWordChar d = false)
    (hblanks : ((bytesOf body).drop stop).dropWhile Text.isTagBlank = (bytesOf body).drop i) :
    (Cursor.ahead before start stop i).pending (bytesOf body) =
      if ((bytesOf body).drop i).head? = some '(' ∧ before ≠ '.' ∧ before ≠ '|' then
        (c :: w) :: (Cursor.between 'a' stop).pending (bytesOf body)
      else (Cursor.between 'a' stop).pending (bytesOf body) := by
  have hchars : ∀ d ∈ w, Text.isWordChar d = true := fun d hd =>
    hread.chars d (List.mem_cons_of_mem _ hd)
  rw [Cursor.pending, Cursor.pending, hread.cut, List.cons_append, namesIn_wordStart hstart,
    dropWhile_word hchars hlongest, takeWhile_word hchars hlongest, Calls.opensCall, hblanks]
  simp [and_assoc]

theorem step_ahead (h : (Cursor.ahead before start stop i).Sound (bytesOf body)) :
    GoesOn body ⟨.ahead before start stop i, names⟩ := by
  obtain ⟨c, w, hstart, hread, hlongest, hblanks⟩ := h
  rcases head?_or Text.isTagBlank ((bytesOf body).drop i) with
    ⟨b, rest, hdrop, hblank⟩ | ⟨hnoblank, hend⟩
  · have hlt := lt_of_drop hdrop
    refine goesOn_of_moves (.ahead before start stop (i + 1)) hdrop (if_pos hblank)
      (inner_lt (inner_lt (by omega))) rfl ⟨c, w, hstart, hread, hlongest, ?_⟩
    rw [hblanks, hdrop, drop_succ hdrop, List.dropWhile_cons_of_pos hblank]
  · rw [dropWhile_of_head? hend] at hblanks
    have hpending := @pending_ahead body before i start stop c w hstart hread hlongest hblanks
    have hlt := lt_of_drop hread.cut
    have hstop := hread.stop_eq
    rw [List.length_cons] at hstop
    by_cases hcalled : ((bytesOf body).drop i).head? = some '(' ∧ before ≠ '.' ∧ before ≠ '|'
    · rw [if_pos hcalled] at hpending
      have hpiece : pieceOf body start stop = .ok (String.ofList (c :: w)) := by
        rw [hread.stop_eq]
        exact pieceOf_word hread.cut (List.cons_ne_nil c w) fun d hd =>
          isWordChar_ascii (hread.chars d hd)
      refine ⟨⟨.between 'a' stop, names ++ [String.ofList (c :: w)]⟩, ⟨?_, ?_, ?_⟩, trivial⟩
      · rw [step_eq]
        refine (if_neg hnoblank).trans ((if_pos hcalled).trans ?_)
        rw [hpiece]
        rfl
      · rw [left, left, ← length_bytesOf]
        exact left_lt (by omega)
      · rw [all, all, hpending, List.map_cons, List.append_assoc, List.singleton_append]
    · rw [if_neg hcalled] at hpending
      exact goesOn_of_moves (.between 'a' stop) rfl ((if_neg hnoblank).trans (if_neg hcalled))
        (left_lt (by omega)) hpending.symm trivial

/-- At every state the scan of a body comes to the same names. -/
theorem finds (body : String) :
    (step body).Finds (left body) (all body) BodyScan.names (Sound body) := by
  intro s h
  obtain ⟨c, names⟩ := s
  cases c with
  | between before i => exact step_between
  | literal quote i => exact .inr (step_literal h)
  | word before start i => exact .inr (step_word h)
  | ahead before start stop i => exact .inr (step_ahead h)

/-- The scan of a body ends with the names that are called in the body. -/
theorem completes (body : String) : ∃ t, (step body).Completes (left body) BodyScan.start t ∧
    t.names = (Calls.namesIn ' ' body.toList).map String.ofList := by
  have hstart : BodyScan.start.Sound body := trivial
  obtain ⟨t, hcompletes, hnames⟩ := (finds body).completes hstart
  refine ⟨t, hcompletes, ?_⟩
  rw [hnames, all, BodyScan.start, List.nil_append, Cursor.pending, List.drop_zero, bytesOf_eq,
    namesIn_spell]

end BodyScan

end Folio.Template
