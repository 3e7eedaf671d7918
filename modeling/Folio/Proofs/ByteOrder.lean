/-
Names in the order of their bytes.

Names are compared character by character, and files and bundles are listed in the order of the
bytes that spell them in UTF-8.  The two orders are the same: of two different characters the
smaller one differs from the other one at some byte, the bytes before that are the same, and at
that byte it is smaller (`encode_lt`).  So the first character in which two names differ decides
both comparisons (`lt_iff_bytesLt`).
-/
import Folio.Dict

namespace Folio

/-- Bytes in lexicographic order. -/
def BytesLex : List UInt8 → List UInt8 → Prop := List.Lex fun x y => x.toNat < y.toNat

/-- Names in the lexicographic order of their bytes. -/
def BytesLt (s t : String) : Prop := BytesLex s.toUTF8.data.toList t.toUTF8.data.toList

/-! ### Two characters -/

section Encode

variable {b b' : List UInt8}

/-- Two lists that begin alike and then differ are in order whatever follows. -/
theorem bytesLex_append (lead : List UInt8) {x y : UInt8} (h : x.toNat < y.toNat) :
    BytesLex (lead ++ x :: b) (lead ++ y :: b') := by
  induction lead with
  | nil => exact .rel h
  | cons z lead ih => exact .cons ih

/-- The two lists begin alike and differ at some byte, where the first one has the smaller. -/
def Decided (b b' : List UInt8) : Prop :=
  ∃ lead x y rest rest', b = lead ++ x :: rest ∧ b' = lead ++ y :: rest' ∧ x.toNat < y.toNat

theorem Decided.first {x y : UInt8} (h : x.toNat < y.toNat) : Decided (x :: b) (y :: b') :=
  ⟨[], x, y, b, b', rfl, rfl, h⟩

theorem Decided.later (x : UInt8) (h : Decided b b') : Decided (x :: b) (x :: b') := by
  obtain ⟨lead, y, z, rest, rest', hb, hb', hlt⟩ := h
  exact ⟨x :: lead, y, z, rest, rest', by rw [hb]; rfl, by rw [hb']; rfl, hlt⟩

theorem Decided.digit {x y : Nat} (hx : x < 256) (hy : y < 256) (hle : x ≤ y)
    (h : x = y → Decided b b') : Decided (UInt8.ofNat x :: b) (UInt8.ofNat y :: b') := by
  rcases Nat.lt_or_eq_of_le hle with hlt | heq
  · refine .first ?_
    rw [UInt8.toNat_ofNat', UInt8.toNat_ofNat']
    omega
  · rw [heq]
    exact .later _ (h heq)

theorem encode_decided {c d : Char} (h : c.val.toNat < d.val.toNat) :
    Decided (String.utf8EncodeChar c) (String.utf8EncodeChar d) := by
  have hd : d.val.toNat < 1114112 := by
    rcases d.valid with hd | hd
    · exact Nat.lt_trans hd (by decide)
    · exact hd.2
  unfold String.utf8EncodeChar
  dsimp only
  generalize c.val.toNat = m at h
  generalize d.val.toNat = n at h hd
  -- A character of more bytes has the larger first byte; those of equally many differ at a digit.
  split
  · split
    · exact .digit (by omega) (by omega) (by omega) (fun _ => by omega)
    · repeat' split
      all_goals exact .digit (by omega) (by omega) (by omega) (fun _ => by omega)
  · split
    · rw [if_neg (by omega)]
      split
      · exact .digit (by omega) (by omega) (by omega) fun _ =>
          .digit (by omega) (by omega) (by omega) (fun _ => by omega)
      · split
        all_goals exact .digit (by omega) (by omega) (by omega) (fun _ => by omega)
    · split
      · rw [if_neg (by omega), if_neg (by omega)]
        split
        · exact .digit (by omega) (by omega) (by omega) fun _ =>
            .digit (by omega) (by omega) (by omega) fun _ =>
              .digit (by omega) (by omega) (by omega) (fun _ => by omega)
        · exact .digit (by omega) (by omega) (by omega) (fun _ => by omega)
      · rw [if_neg (by omega), if_neg (by omega), if_neg (by omega)]
        exact .digit (by omega) (by omega) (by omega) fun _ =>
          .digit (by omega) (by omega) (by omega) fun _ =>
            .digit (by omega) (by omega) (by omega) fun _ =>
              .digit (by omega) (by omega) (by omega) (fun _ => by omega)

end Encode

/-! ### Two names -/

theorem toUTF8_eq_flatMap (s : String) :
    s.toUTF8.data.toList = s.toList.flatMap String.utf8EncodeChar := by
  rw [String.toUTF8_eq_toByteArray, ← String.utf8Encode_toList, List.utf8Encode]
  simp

/-- The first character that differs decides. -/
theorem bytesLex_of_lex {cs ds : List Char} (h : List.Lex (· < ·) cs ds) :
    BytesLex (cs.flatMap String.utf8EncodeChar) (ds.flatMap String.utf8EncodeChar) := by
  induction h with
  | @nil c cs =>
      have hne : String.utf8EncodeChar c ≠ [] := by
        unfold String.utf8EncodeChar
        dsimp only
        repeat' split
        all_goals exact List.cons_ne_nil _ _
      rw [List.flatMap_nil, List.flatMap_cons]
      cases hencode : String.utf8EncodeChar c with
      | nil => exact absurd hencode hne
      | cons x rest => exact .nil
  | @rel c cs d ds hlt =>
      obtain ⟨lead, x, y, rest, rest', hc, hd, hxy⟩ := encode_decided (Char.lt_def.mp hlt)
      rw [List.flatMap_cons, List.flatMap_cons, hc, hd, List.append_assoc, List.append_assoc]
      exact bytesLex_append lead hxy
  | @cons c cs ds _ ih =>
      rw [List.flatMap_cons, List.flatMap_cons]
      induction String.utf8EncodeChar c with
      | nil => exact ih
      | cons x rest ihc => exact .cons ihc

theorem bytesLt_of_lt {s t : String} (h : s < t) : BytesLt s t := by
  unfold BytesLt
  rw [toUTF8_eq_flatMap, toUTF8_eq_flatMap]
  exact bytesLex_of_lex (String.lt_iff.mp h)

/-- **Names are ordered as their bytes are.** -/
theorem lt_iff_bytesLt {s t : String} : s < t ↔ BytesLt s t := by
  refine ⟨bytesLt_of_lt, fun h => ?_⟩
  -- Any other order of the names would put the bytes in that order too.
  refine Classical.byContradiction fun hnot => ?_
  have hasymm : ∀ {b b' : List UInt8}, BytesLex b b' → ¬ BytesLex b' b :=
    List.lex_asymm fun hxy => Nat.lt_asymm hxy
  rcases String.le_total s t with hle | hle
  · have heq : s = t := String.le_antisymm hle (String.not_lt.mp hnot)
    rw [heq] at h
    exact hasymm h h
  · by_cases heq : t = s
    · rw [heq] at h
      exact hasymm h h
    · refine hasymm h (bytesLt_of_lt (String.not_le.mp fun hle' => heq ?_))
      exact String.le_antisymm hle hle'

theorem Dict.keys_bytesLt.{u} {α : Type u} (d : Dict α) : d.keys.Pairwise BytesLt :=
  List.pairwise_map.mpr (d.ordered.imp lt_iff_bytesLt.mp)

end Folio
