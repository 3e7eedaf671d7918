/-
The scan for called names reads bytes.

A source is bytes, and what opens and closes a tag, a literal or a word is found among them.  A
character beyond ASCII is spelled by bytes of 128 and more (`wide_of_mem_spellChar`), and the scan
passes over those as it passes over the character: no class of characters that it asks for has one
of them.  So it finds the same names in the characters of a source as in its bytes
(`scanned_spell`), and these are the names that the bytes call (`calledNames_by_pieces`).
-/
import Folio.Proofs.ByteOrder
import Folio.Proofs.TagPieces

namespace Folio.Template

/-! ### Bytes as characters -/

/-- The bytes of a character, each as the character of its number. -/
def spellChar (c : Char) : List Char :=
  (String.utf8EncodeChar c).map fun b => Char.ofNat b.toNat

/-- The bytes of a text, each as the character of its number. -/
def spell (cs : List Char) : List Char := cs.flatMap spellChar

/-- The bytes of a source, each as the character of its number. -/
def bytesOf (source : String) : List Char :=
  source.toUTF8.data.toList.map fun b => Char.ofNat b.toNat

theorem bytesOf_eq (source : String) : bytesOf source = spell source.toList := by
  rw [bytesOf, toUTF8_eq_flatMap, List.map_flatMap]
  rfl

section Spell

variable {a b c d q before before' : Char} {cs rest ws : List Char} {p : Char → Bool}

theorem toNat_ofNat_byte (n : UInt8) : (Char.ofNat n.toNat).toNat = n.toNat := by
  have hvalid : n.toNat.isValidChar := Or.inl (Nat.lt_trans n.toNat_lt (by decide))
  rw [Char.ofNat, dif_pos hvalid]
  rfl

theorem spellChar_ascii (h : c.toNat < 128) : spellChar c = [c] := by
  have hval : c.val.toNat ≤ 127 := Nat.le_of_lt_succ h
  have hbyte : (UInt8.ofNat c.val.toNat).toNat = c.toNat := by
    rw [UInt8.toNat_ofNat', Nat.mod_eq_of_lt (by omega)]
    rfl
  rw [spellChar, String.utf8EncodeChar, if_pos hval, List.map_singleton, hbyte, Char.ofNat_toNat]

theorem spellChar_ne_nil : spellChar c ≠ [] := by
  simp [spellChar, String.utf8EncodeChar_ne_nil]

theorem wide_of_mem_spellChar (h : 128 ≤ c.toNat) (hd : d ∈ spellChar c) : 128 ≤ d.toNat := by
  obtain ⟨n, hn, rfl⟩ := List.mem_map.mp hd
  have hval : ¬ c.val.toNat ≤ 127 := Nat.not_le.mpr h
  rw [toNat_ofNat_byte]
  unfold String.utf8EncodeChar at hn
  dsimp only at hn
  rw [if_neg hval] at hn
  -- Each byte is a sum of a part of the number and of a mark that is 128 or more.
  split at hn
  · simp only [List.mem_cons, List.not_mem_nil, or_false] at hn
    rcases hn with rfl | rfl <;> rw [UInt8.toNat_ofNat'] <;> omega
  · split at hn
    · simp only [List.mem_cons, List.not_mem_nil, or_false] at hn
      rcases hn with rfl | rfl | rfl <;> rw [UInt8.toNat_ofNat'] <;> omega
    · simp only [List.mem_cons, List.not_mem_nil, or_false] at hn
      rcases hn with rfl | rfl | rfl | rfl <;> rw [UInt8.toNat_ofNat'] <;> omega

/-- Behind the first byte of a character there are only bytes beyond ASCII. -/
theorem spellChar_cons (c : Char) :
    ∃ d ws, spellChar c = d :: ws ∧ (128 ≤ c.toNat → 128 ≤ d.toNat) ∧
      ∀ e ∈ ws, 128 ≤ e.toNat := by
  rcases Nat.lt_or_ge c.toNat 128 with h | h
  · exact ⟨c, [], spellChar_ascii h, id, by simp⟩
  · obtain ⟨d, ws, heq⟩ := List.exists_cons_of_ne_nil (spellChar_ne_nil (c := c))
    refine ⟨d, ws, heq, fun _ => wide_of_mem_spellChar h ?_, fun e he => ?_⟩
    · rw [heq]
      exact List.mem_cons_self
    · refine wide_of_mem_spellChar h ?_
      rw [heq]
      exact List.mem_cons_of_mem _ he

theorem spell_cons : spell (c :: rest) = spellChar c ++ spell rest := List.flatMap_cons

theorem spell_cons_ascii (h : c.toNat < 128) : spell (c :: rest) = c :: spell rest := by
  rw [spell_cons, spellChar_ascii h, List.singleton_append]

theorem spell_ascii (h : ∀ c ∈ cs, c.toNat < 128) : spell cs = cs := by
  induction cs with
  | nil => rfl
  | cons c rest ih =>
      rw [spell_cons_ascii (h c List.mem_cons_self),
        ih fun d hd => h d (List.mem_cons_of_mem _ hd)]

theorem ne_of_wide (h : 128 ≤ c.toNat) (ha : a.toNat < 128) : c ≠ a := by
  rintro rfl
  omega

/-! ### Classes of characters -/

theorem isWordChar_ascii (h : Text.isWordChar c = true) : c.toNat < 128 := by
  have hle : ∀ {a : Char}, c ≤ a → a.toNat < 128 → c.toNat < 128 := fun hca ha =>
    Nat.lt_of_le_of_lt (UInt32.le_iff_toNat_le.mp (Char.le_def.mp hca)) ha
  simp only [Text.isWordChar, Text.isWordStart, Text.isLetter, Text.isDigit, Bool.or_eq_true,
    Bool.and_eq_true, decide_eq_true_eq] at h
  rcases h with ((⟨-, h⟩ | ⟨-, h⟩) | rfl) | ⟨-, h⟩
  · exact hle h (by decide)
  · exact hle h (by decide)
  · decide
  · exact hle h (by decide)

theorem isWordChar_wide (h : 128 ≤ c.toNat) : Text.isWordChar c = false :=
  Bool.eq_false_iff.mpr fun hword => Nat.not_lt.mpr h (isWordChar_ascii hword)

theorem isTagBlank_wide (h : 128 ≤ c.toNat) : Text.isTagBlank c = false := by
  refine Bool.eq_false_iff.mpr fun hblank => ?_
  simp only [Text.isTagBlank, Bool.or_eq_true, decide_eq_true_eq] at hblank
  rcases hblank with (((rfl | rfl) | rfl) | rfl) | rfl <;> exact absurd h (by decide)

theorem head?_spell (ha : a.toNat < 128) : (spell cs).head? = some a ↔ cs.head? = some a := by
  cases cs with
  | nil => rfl
  | cons c rest =>
      rcases Nat.lt_or_ge c.toNat 128 with h | h
      · rw [spell_cons_ascii h, List.head?_cons, List.head?_cons]
      · obtain ⟨d, ws, heq, hd, -⟩ := spellChar_cons c
        rw [spell_cons, heq, List.cons_append, List.head?_cons, List.head?_cons, Option.some_inj,
          Option.some_inj]
        exact iff_of_false (ne_of_wide (hd h) ha) (ne_of_wide h ha)

/-- A class of ASCII characters ends in the bytes where it ends in the characters. -/
theorem span_spell (hp : ∀ {d : Char}, 128 ≤ d.toNat → p d = false) :
    (spell cs).takeWhile p = cs.takeWhile p ∧ (spell cs).dropWhile p = spell (cs.dropWhile p) := by
  induction cs with
  | nil => exact ⟨rfl, rfl⟩
  | cons c rest ih =>
      rcases Nat.lt_or_ge c.toNat 128 with h | h
      · rw [spell_cons_ascii h, List.takeWhile_cons, List.takeWhile_cons, List.dropWhile_cons,
          List.dropWhile_cons, ih.1, ih.2]
        cases p c
        · exact ⟨rfl, (spell_cons_ascii h).symm⟩
        · exact ⟨rfl, rfl⟩
      · obtain ⟨d, ws, heq, hd, -⟩ := spellChar_cons c
        rw [spell_cons, heq]
        simp [hp (hd h), hp h, spell_cons, heq]

/-! ### The parts of the scan -/

theorem afterQuote_wide (hq : q.toNat < 128) (wide : ∀ d ∈ ws, 128 ≤ d.toNat) :
    Calls.afterQuote q (ws ++ rest) = Calls.afterQuote q rest := by
  induction ws with
  | nil => rfl
  | cons d ws ih =>
      have hd := wide d List.mem_cons_self
      rw [List.cons_append, afterQuote_cons (ne_of_wide hd (by decide)), if_neg (ne_of_wide hd hq),
        ih fun e he => wide e (List.mem_cons_of_mem _ he)]

theorem afterQuote_spell (quote : q = '\'' ∨ q = '"') (cs : List Char) :
    Calls.afterQuote q (spell cs) = spell (Calls.afterQuote q cs) := by
  have hq : q.toNat < 128 := by rcases quote with rfl | rfl <;> decide
  fun_induction Calls.afterQuote q cs with
  | case1 => rfl
  | case2 c rest ih =>
      -- The backslash takes the first byte of the character along, and the others are passed over.
      obtain ⟨d, ws, heq, -, hwide⟩ := spellChar_cons c
      rw [spell_cons_ascii (by decide), spell_cons, heq, List.cons_append, Calls.afterQuote,
        afterQuote_wide hq hwide, ih]
  | case3 rest hrest =>
      rw [spell_cons_ascii hq, afterQuote_cons (quote_ne_backslash quote), if_pos rfl]
  | case4 c rest hrest hne ih =>
      rcases Nat.lt_or_ge c.toNat 128 with h | h
      · rw [spell_cons_ascii h, Calls.afterQuote.eq_3, if_neg hne, ih]
        intro d ws hback hspell
        cases rest with
        | nil => cases hspell
        | cons e rest => exact hrest e rest hback rfl
      · rw [spell_cons, afterQuote_wide hq fun _ => wide_of_mem_spellChar h, ih]

theorem splitBeforePair_wide (ha : a.toNat < 128) (wide : ∀ d ∈ ws, 128 ≤ d.toNat) :
    Calls.splitBeforePair a b (ws ++ rest) =
      (ws ++ (Calls.splitBeforePair a b rest).1, (Calls.splitBeforePair a b rest).2) := by
  induction ws with
  | nil => rfl
  | cons d ws ih =>
      have hd := ne_of_wide (wide d List.mem_cons_self) ha
      rw [List.cons_append, Calls.splitBeforePair, if_neg fun h => hd h.1,
        ih fun e he => wide e (List.mem_cons_of_mem _ he)]
      rfl

theorem splitBeforePair_spell (ha : a.toNat < 128) (hb : b.toNat < 128) (cs : List Char) :
    Calls.splitBeforePair a b (spell cs) =
      (spell (Calls.splitBeforePair a b cs).1, spell (Calls.splitBeforePair a b cs).2) := by
  induction cs with
  | nil => rfl
  | cons c rest ih =>
      rcases Nat.lt_or_ge c.toNat 128 with h | h
      · rw [spell_cons_ascii h, Calls.splitBeforePair, Calls.splitBeforePair]
        by_cases hpair : c = a ∧ rest.head? = some b
        · rw [if_pos hpair, if_pos ⟨hpair.1, (head?_spell hb).mpr hpair.2⟩, spell_cons_ascii h]
          rfl
        · rw [if_neg hpair, if_neg fun h' => hpair ⟨h'.1, (head?_spell hb).mp h'.2⟩, ih]
          dsimp only
          rw [spell_cons_ascii h]
      · rw [spell_cons, splitBeforePair_wide ha fun _ => wide_of_mem_spellChar h, ih,
          Calls.splitBeforePair, if_neg fun hpair => ne_of_wide h ha hpair.1, spell_cons]

/-- No tag is opened by bytes beyond ASCII. -/
theorem tagBodies_wide (wide : ∀ d ∈ ws, 128 ≤ d.toNat) :
    Calls.tagBodies (ws ++ rest) = Calls.tagBodies rest := by
  induction ws with
  | nil => rfl
  | cons d ws ih =>
      have hd : d ≠ '\x7b' := ne_of_wide (wide d List.mem_cons_self) (by decide)
      rw [List.cons_append, tagBodies_skip fun hbrace => absurd hbrace hd,
        ih fun e he => wide e (List.mem_cons_of_mem _ he)]

theorem tagBodies_spell (cs : List Char) :
    Calls.tagBodies (spell cs) = (Calls.tagBodies cs).map spell := by
  fun_induction Calls.tagBodies cs with
  | case1 => simp [spell, Calls.tagBodies]
  | case2 c =>
      rcases Nat.lt_or_ge c.toNat 128 with h | h
      · rw [spell_cons_ascii h]
        simp [spell, Calls.tagBodies]
      · rw [spell_cons, tagBodies_wide fun _ => wide_of_mem_spellChar h]
        simp [spell, Calls.tagBodies]
  | case3 d inner a b hpair hle ih =>
      obtain ⟨kind, tag, rfl, delimiter⟩ := closingPair?_eq_some hpair
      have hascii : kind.mark.toNat < 128 ∧ kind.closing.1.toNat < 128 ∧
          kind.closing.2.toNat < 128 := by
        cases kind <;> decide
      rw [delimiter] at hascii
      rw [spell_cons_ascii (by decide), spell_cons_ascii hascii.1, Calls.tagBodies, if_pos rfl, hpair]
      dsimp only
      rw [splitBeforePair_spell hascii.2.1 hascii.2.2, ih, List.map_cons]
  | case4 d inner hpair ih =>
      rw [spell_cons_ascii (by decide), tagBodies_skip, ih]
      intro _ e he
      cases hclose : Calls.closingPair? e with
      | none => rfl
      | some pair =>
          obtain ⟨kind, tag, rfl, -⟩ := closingPair?_eq_some hclose
          cases (head?_spell (by cases kind <;> decide)).mp he
          rw [hpair] at hclose
          cases hclose
  | case5 c d inner hc ih =>
      rcases Nat.lt_or_ge c.toNat 128 with h | h
      · rw [spell_cons_ascii h, tagBodies_skip fun hbrace => absurd hbrace hc, ih]
      · rw [spell_cons, tagBodies_wide fun _ => wide_of_mem_spellChar h, ih]

/-- All that the scan has to remember is whether the last character was a dot or a bar. -/
theorem namesIn_before (h : before = '.' ∨ before = '|' ↔ before' = '.' ∨ before' = '|') :
    Calls.namesIn before cs = Calls.namesIn before' cs := by
  have hguard : (decide (before ≠ '.') && decide (before ≠ '|')) =
      (decide (before' ≠ '.') && decide (before' ≠ '|')) := by
    rw [Bool.eq_iff_iff]
    simpa using not_congr h
  induction cs with
  | nil => simp [Calls.namesIn]
  | cons c rest ih =>
      by_cases hquote : c = '\'' ∨ c = '"'
      · rw [namesIn_quote hquote, namesIn_quote hquote]
      · rw [not_or] at hquote
        cases hword : Text.isWordStart c with
        | true =>
            rw [namesIn_wordStart hword, namesIn_wordStart hword, Bool.and_assoc, hguard,
              Bool.and_assoc]
        | false =>
            rw [namesIn_skip hquote.2 hquote.1 hword, namesIn_skip hquote.2 hquote.1 hword]
            cases Text.isTagBlank c with
            | true => exact ih
            | false => rfl

/-- What stands in a body beyond ASCII is no dot and no bar. -/
theorem namesIn_wide (wide : ∀ d ∈ ws, 128 ≤ d.toNat) (hne : ws ≠ []) (hc : 128 ≤ c.toNat) :
    Calls.namesIn before (ws ++ rest) = Calls.namesIn c rest := by
  have hguard : ∀ {d : Char}, 128 ≤ d.toNat → ¬ (d = '.' ∨ d = '|') := by
    rintro d hd (rfl | rfl) <;> exact absurd hd (by decide)
  induction ws generalizing before with
  | nil => exact absurd rfl hne
  | cons d ws ih =>
      have hd := wide d List.mem_cons_self
      have hword : Text.isWordStart d = false := isWordStart_of_not_isWordChar (isWordChar_wide hd)
      rw [List.cons_append, namesIn_skip (ne_of_wide hd (by decide)) (ne_of_wide hd (by decide))
        hword, isTagBlank_wide hd]
      by_cases hws : ws = []
      · rw [hws]
        exact namesIn_before (iff_of_false (hguard hd) (hguard hc))
      · exact ih (fun e he => wide e (List.mem_cons_of_mem _ he)) hws

theorem namesIn_spell (before : Char) (cs : List Char) :
    Calls.namesIn before (spell cs) = Calls.namesIn before cs := by
  have hspan : ∀ {cs : List Char},
      (spell cs).takeWhile Text.isWordChar = cs.takeWhile Text.isWordChar ∧
        (spell cs).dropWhile Text.isWordChar = spell (cs.dropWhile Text.isWordChar) :=
    span_spell isWordChar_wide
  have hcalls : ∀ {cs : List Char}, Calls.opensCall (spell cs) = Calls.opensCall cs := by
    intro cs
    rw [Calls.opensCall, Calls.opensCall, (span_spell isTagBlank_wide).2]
    exact decide_eq_decide.mpr (head?_spell (by decide))
  fun_induction Calls.namesIn before cs with
  | case1 => simp [spell, Calls.namesIn]
  | case2 before c rest hquote hle ih =>
      have quote : c = '\'' ∨ c = '"' := by simpa [or_comm] using hquote
      have hc : c.toNat < 128 := by rcases quote with rfl | rfl <;> decide
      rw [spell_cons_ascii hc, namesIn_quote quote, afterQuote_spell quote, ih]
  | case3 before c rest hquote hword hle later hopen ih =>
      have hc := isWordChar_ascii (Text.isWordChar_of_isWordStart hword)
      rw [spell_cons_ascii hc, namesIn_wordStart hword, hspan.1, hspan.2, hcalls, ih, if_pos hopen]
  | case4 before c rest hquote hword hle later hopen ih =>
      have hc := isWordChar_ascii (Text.isWordChar_of_isWordStart hword)
      rw [spell_cons_ascii hc, namesIn_wordStart hword, hspan.1, hspan.2, hcalls, ih, if_neg hopen]
  | case5 before c rest hquote hword ih =>
      have quote : c ≠ '"' ∧ c ≠ '\'' := by simpa using hquote
      simp only [dite_eq_ite] at ih
      rcases Nat.lt_or_ge c.toNat 128 with h | h
      · rw [spell_cons_ascii h, namesIn_skip quote.1 quote.2 (by simpa using hword), ih]
      · rw [isTagBlank_wide h] at ih
        rw [spell_cons, namesIn_wide (fun _ => wide_of_mem_spellChar h) spellChar_ne_nil h]
        simpa [isTagBlank_wide h] using ih

/-- **The scan finds the same names in the bytes of a text as in its characters.** -/
theorem scanned_spell (cs : List Char) : scanned (spell cs) = scanned cs := by
  simp only [scanned, tagBodies_spell, List.flatMap_map, namesIn_spell]

theorem isWordChar_of_mem_namesIn {name : List Char} (h : name ∈ Calls.namesIn before cs) :
    ∀ c ∈ name, Text.isWordChar c = true := by
  fun_induction Calls.namesIn before cs with
  | case1 => cases h
  | case2 before c rest hquote hle ih => exact ih h
  | case3 before c rest hquote hword hle later hopen ih =>
      rcases List.mem_cons.mp h with rfl | h
      · intro d hd
        rcases List.mem_cons.mp hd with rfl | hd
        · exact Text.isWordChar_of_isWordStart hword
        · exact List.all_eq_true.mp List.all_takeWhile d hd
      · exact ih h
  | case4 before c rest hquote hword hle later hopen ih => exact ih h
  | case5 before c rest hquote hword ih => exact ih h

end Spell

/-- **The names that the scan finds are those that the bytes of the source call.**  There is one way
to cut the bytes into tags, and one way to cut a body into pieces. -/
theorem calledNames_by_pieces (source : String) :
    (∃! bodies, Bodies (bytesOf source) bodies) ∧ (∀ body, ∃! pieces, Cut body pieces) ∧
      ∀ name, Called (bytesOf source) name ↔ name ∈ (calledNames source).map bytesOf := by
  refine ⟨⟨_, bodies_tagBodies _, fun _ => Bodies.eq_tagBodies⟩, cut_unique, fun name => ?_⟩
  -- The bytes of a name are its characters.
  have hnames : (calledNames source).map bytesOf = scanned source.toList := by
    show ((scanned source.toList).map String.ofList).map bytesOf = _
    rw [List.map_map]
    refine (List.map_congr_left fun name hname => ?_).trans (List.map_id _)
    obtain ⟨body, -, hname⟩ := List.mem_flatMap.mp hname
    rw [Function.comp_apply, bytesOf_eq, String.toList_ofList, id_eq]
    exact spell_ascii fun c hc => isWordChar_ascii (isWordChar_of_mem_namesIn hname c hc)
  rw [hnames, ← mem_scanned_iff, bytesOf_eq, scanned_spell]

/-- An attribute, a filter and a text in a literal are not called.  The last tag and the literal in
it are not closed. -/
example : calledNames "\x7b\x7b x.f(1) | g(é) ~ h (2) ~ 'i(3)' \x7d\x7d \x7b% j('k(" = ["h", "j"] := by
  decide +kernel

end Folio.Template
