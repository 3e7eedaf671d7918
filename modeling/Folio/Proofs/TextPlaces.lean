/-
Places in the bytes of a text.

A text can be read byte by byte and taken apart at places between bytes.  Not every place will do:
the bytes of a character beyond ASCII must stay together, and behind the last byte there is nothing
to read.  Reading and taking apart are checked here, and what is refused says where (`Misread`).

A byte of ASCII is a character of its own, whatever stands around it.  So there are places on both
sides of it (`places_of_ascii`), and at such places a text can always be taken apart
(`pieceOf_eq_ok`).
-/
import Folio.Proofs.ScanBytes

namespace Folio.Template

/-- What is asked of a text that it does not have. -/
inductive Misread where
  /-- There is no byte at this place. -/
  | byte (place : Nat)
  /-- These are not the ends of a piece of the text. -/
  | piece (start stop : Nat)
  deriving DecidableEq, Repr

/-- The byte at a place. -/
def byteAt (s : String) (place : Nat) : Except Misread Char :=
  match (bytesOf s)[place]? with
  | some b => .ok b
  | none => .error (.byte place)

/-- A place that is not within a character and not behind the end. -/
abbrev IsPlace (s : String) (place : Nat) : Prop := String.Pos.Raw.IsValid s ⟨place⟩

/-- The piece of a text between two places. -/
def pieceOf (s : String) (start stop : Nat) : Except Misread String :=
  if h : IsPlace s start ∧ IsPlace s stop ∧ start ≤ stop then
    .ok (s.extract ⟨⟨start⟩, h.1⟩ ⟨⟨stop⟩, h.2.1⟩)
  else .error (.piece start stop)

/-- The first place from which on the bytes begin with a word. -/
def firstPlace? (word : List Char) : List Char → Option Nat
  | [] => none
  | b :: rest => if word <+: b :: rest then some 0 else (firstPlace? word rest).map (· + 1)

section Places

variable {s : String} {start stop place : Nat} {b : Char} {cs rest word : List Char}

theorem length_bytesOf : (bytesOf s).length = s.utf8ByteSize := by
  rw [bytesOf, List.length_map, Array.length_toList, ByteArray.size_data]
  rfl

theorem lt_of_drop (h : cs.drop place = b :: rest) : place < cs.length :=
  List.length_lt_of_drop_ne_nil (h ▸ List.cons_ne_nil b rest)

theorem drop_succ (h : cs.drop place = b :: rest) : cs.drop (place + 1) = rest := by
  rw [← List.tail_drop, h, List.tail_cons]

theorem getElem?_of_drop (h : cs.drop place = b :: rest) : cs[place]? = some b := by
  rw [← List.head?_drop, h, List.head?_cons]

theorem byteAt_of_drop (h : (bytesOf s).drop place = b :: rest) : byteAt s place = .ok b := by
  rw [byteAt, getElem?_of_drop h]

theorem isPlace_zero : IsPlace s 0 := String.Pos.Raw.isValid_zero

theorem isPlace_size : IsPlace s s.utf8ByteSize := String.Pos.Raw.isValid_rawEndPos

theorem IsPlace.le_size (h : IsPlace s place) : place ≤ s.utf8ByteSize := h.le_utf8ByteSize

theorem isPlace_iff : IsPlace s place ↔ ∃ n, (spell (s.toList.take n)).length = place := by
  have hsize : ∀ n, (String.ofList (s.toList.take n)).utf8ByteSize =
      (spell (s.toList.take n)).length := by
    intro n
    rw [← length_bytesOf, bytesOf_eq, String.toList_ofList]
  refine String.Pos.Raw.isValid_iff_exists_take_toList.trans (exists_congr fun n => ?_)
  rw [hsize]
  exact eq_comm

theorem exists_take_of_ascii (h : (spell cs)[place]? = some b) (hb : b.toNat < 128) :
    ∃ n, (spell (cs.take n)).length = place ∧ (spell (cs.take (n + 1))).length = place + 1 := by
  induction cs generalizing place with
  | nil => cases h
  | cons c rest ih =>
      rw [spell_cons] at h
      rcases Nat.lt_or_ge place (spellChar c).length with hlt | hge
      · -- The byte spells the first character, which is no longer than that.
        rw [List.getElem?_append_left hlt] at h
        have hc : c.toNat < 128 := Nat.lt_of_not_le fun hwide =>
          Nat.not_lt.mpr (wide_of_mem_spellChar hwide (List.mem_of_getElem? h)) hb
        rw [spellChar_ascii hc, List.length_singleton, Nat.lt_one_iff] at hlt
        refine ⟨0, hlt.symm, ?_⟩
        rw [List.take_succ_cons, List.take_zero, spell_cons_ascii hc, hlt]
        rfl
      · rw [List.getElem?_append_right hge] at h
        obtain ⟨n, hn, hnext⟩ := ih h
        refine ⟨n + 1, ?_, ?_⟩
        · rw [List.take_succ_cons, spell_cons, List.length_append, hn, Nat.add_sub_cancel' hge]
        · rw [List.take_succ_cons, spell_cons, List.length_append, hnext]
          omega

/-- **Before and behind a byte of ASCII there are places.** -/
theorem places_of_ascii (h : (bytesOf s)[place]? = some b) (hb : b.toNat < 128) :
    IsPlace s place ∧ IsPlace s (place + 1) := by
  rw [bytesOf_eq] at h
  obtain ⟨n, hn, hnext⟩ := exists_take_of_ascii h hb
  exact ⟨isPlace_iff.mpr ⟨n, hn⟩, isPlace_iff.mpr ⟨n + 1, hnext⟩⟩

/-- The first character has two bytes. -/
example : ¬ IsPlace "é(" 1 ∧ IsPlace "é(" 2 ∧ IsPlace "é(" 3 := by decide +kernel

theorem bytesOf_extract (p q : s.Pos) :
    bytesOf (s.extract p q) = ((bytesOf s).take q.offset.byteIdx).drop p.offset.byteIdx := by
  rw [bytesOf, bytesOf, String.toUTF8_eq_toByteArray, String.toUTF8_eq_toByteArray,
    String.toByteArray_extract, ByteArray.data_extract, Array.toList_extract,
    List.extract_eq_take_drop, List.map_take, List.map_drop, List.drop_take]

/-- A piece between two places has the bytes between them. -/
theorem pieceOf_eq_ok (hstart : IsPlace s start) (hstop : IsPlace s stop) (hle : start ≤ stop) :
    ∃ piece, pieceOf s start stop = .ok piece ∧
      bytesOf piece = ((bytesOf s).take stop).drop start := by
  rw [pieceOf, dif_pos ⟨hstart, hstop, hle⟩]
  exact ⟨_, rfl, bytesOf_extract ..⟩

theorem pieceOf_end (hstart : IsPlace s start) :
    ∃ piece, pieceOf s start s.utf8ByteSize = .ok piece ∧
      bytesOf piece = (bytesOf s).drop start := by
  obtain ⟨piece, hpiece, hbytes⟩ := pieceOf_eq_ok hstart isPlace_size hstart.le_size
  refine ⟨piece, hpiece, ?_⟩
  rw [hbytes, ← length_bytesOf, List.take_length]

theorem eq_ofList_of_bytesOf (h : bytesOf s = cs) (hascii : ∀ c ∈ cs, c.toNat < 128) :
    s = String.ofList cs := by
  have hchars : ∀ c ∈ s.toList, c.toNat < 128 := by
    intro c hc
    refine Nat.lt_of_not_le fun hwide => ?_
    obtain ⟨d, ws, hspell, hd, -⟩ := spellChar_cons c
    have hmem : d ∈ bytesOf s := by
      rw [bytesOf_eq, spell]
      refine List.mem_flatMap.mpr ⟨c, hc, ?_⟩
      rw [hspell]
      exact List.mem_cons_self
    exact Nat.not_lt.mpr (hd hwide) (hascii d (h ▸ hmem))
  rw [bytesOf_eq, spell_ascii hchars] at h
  rw [← h, String.ofList_toList]

/-- **Bytes of ASCII that follow one another are a piece of the text.** -/
theorem pieceOf_word (h : (bytesOf s).drop start = word ++ rest)
    (hne : word ≠ []) (hascii : ∀ c ∈ word, c.toNat < 128) :
    pieceOf s start (start + word.length) = .ok (String.ofList word) := by
  have hbyte : ∀ n (hn : n < word.length), (bytesOf s)[start + n]? = some word[n] := by
    intro n hn
    rw [← List.getElem?_drop, h, List.getElem?_append_left hn, List.getElem?_eq_getElem hn]
  have hlength : 0 < word.length := List.length_pos_iff.mpr hne
  have hstart : IsPlace s start :=
    (places_of_ascii (hbyte 0 hlength) (hascii _ (List.getElem_mem hlength))).1
  have hlast : word.length - 1 < word.length := by omega
  have hstop : IsPlace s (start + word.length) := by
    have hplaces := (places_of_ascii (hbyte _ hlast) (hascii _ (List.getElem_mem hlast))).2
    rwa [Nat.add_assoc, Nat.sub_add_cancel hlength] at hplaces
  obtain ⟨piece, hpiece, hbytes⟩ := pieceOf_eq_ok hstart hstop (Nat.le_add_right ..)
  rw [List.drop_take, h, Nat.add_sub_cancel_left, List.take_left] at hbytes
  rw [hpiece, eq_ofList_of_bytesOf hbytes hascii]

/-- Where a word is found, the bytes go on with it. -/
theorem drop_of_firstPlace? (h : firstPlace? word cs = some place) :
    ∃ rest, cs.drop place = word ++ rest := by
  induction cs generalizing place with
  | nil => cases h
  | cons b rest ih =>
      rw [firstPlace?] at h
      by_cases hword : word <+: b :: rest
      · rw [if_pos hword] at h
        cases h
        obtain ⟨more, hmore⟩ := hword
        exact ⟨more, hmore.symm⟩
      · rw [if_neg hword, Option.map_eq_some_iff] at h
        obtain ⟨n, hn, rfl⟩ := h
        exact ih hn

end Places

end Folio.Template
