/-
Cutting texts into pieces and putting others in between.

A separator is looked for from left to right, and the search goes on behind each one that
was found.  An empty separator stands before every character and at the end.
-/
import Folio.Text.Letter

namespace Folio.Text

def dropStart? : List Char → List Char → Option (List Char)
  | [], cs => some cs
  | _ :: _, [] => none
  | a :: as, c :: cs => if a = c then dropStart? as cs else none

def hasInfix (part : List Char) : List Char → Bool
  | [] => part.isEmpty
  | c :: rest => part.isPrefixOf (c :: rest) || hasInfix part rest

/-- The text before the first separator, and the text behind it. -/
def splitAtFirst? (sep : List Char) : List Char → Option (List Char × List Char)
  | [] => if sep.isEmpty then some ([], []) else none
  | c :: rest =>
    match dropStart? sep (c :: rest) with
    | some after => some ([], after)
    | none => (splitAtFirst? sep rest).map fun (lead, after) => (c :: lead, after)

/-- The pieces of a text between non-empty separators, at most `limit` of them.  The length
of the text is fuel enough. -/
def piecesBetween (sep : List Char) : Nat → Nat → List Char → List (List Char)
  | 0, _, cs => [cs]
  | _ + 1, 0, _ => []
  | _ + 1, 1, cs => [cs]
  | fuel + 1, limit + 2, cs =>
    match splitAtFirst? sep cs with
    | some (lead, after) => lead :: piecesBetween sep fuel (limit + 1) after
    | none => [cs]

/-- The first `limit - 1` of some pieces, and all others as one. -/
def joinBeyond : Nat → List (List Char) → List (List Char)
  | 0, _ => []
  | _, [] => []
  | 1, pieces => [pieces.flatten]
  | limit + 2, piece :: rest => piece :: joinBeyond (limit + 1) rest

/-- The pieces of a text between separators, at most `limit` of them. -/
def split (sep : List Char) (limit : Option Nat) (cs : List Char) : List (List Char) :=
  if sep.isEmpty then
    let pieces := [] :: cs.map (fun c => [c]) ++ [[]]
    joinBeyond (limit.getD (cs.length + 2)) pieces
  else piecesBetween sep (cs.length + 1) (limit.getD (cs.length + 1)) cs

/-- The words of a text.  The length of the text is fuel enough. -/
def wordsWithin : Nat → List Char → List (List Char)
  | 0, _ => []
  | fuel + 1, cs =>
    match cs.dropWhile isBlank with
    | [] => []
    | start => start.takeWhile (!isBlank ·) :: wordsWithin fuel (start.dropWhile (!isBlank ·))

/-- The first `cuts` words of a text, and what is left behind them: from the next word on, or
the blanks at the end if there is none. -/
def firstWords : Nat → List Char → List (List Char)
  | cuts, cs =>
    match cs.dropWhile isBlank, cuts with
    | [], _ => if cs.isEmpty then [] else [cs]
    | start, 0 => [start]
    | start, cuts + 1 =>
      start.takeWhile (!isBlank ·) :: firstWords cuts (start.dropWhile (!isBlank ·))

def words (cuts : Option Nat) (cs : List Char) : List (List Char) :=
  match cuts with
  | none => wordsWithin (cs.length + 1) cs
  | some cuts => firstWords cuts cs

/-- The text with every occurrence of `old` replaced. -/
def replaceAll (old new cs : List Char) : List Char :=
  if old.isEmpty then new ++ cs.flatMap fun c => c :: new
  else (split old none cs).intersperse new |>.flatten

/-- The text without the characters at both ends that pass the test. -/
def trimBy (p : Char → Bool) (cs : List Char) : List Char :=
  ((cs.dropWhile p).reverse.dropWhile p).reverse

end Folio.Text
