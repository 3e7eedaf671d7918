/-
Capital and small letters of a text.

A character is mapped by its row in the tables, or stays as it is.  Three rules go beyond
a row: some characters have a capital form of several characters, the dotted capital I
has a small form of two, and a capital sigma at the end of a word becomes the final sigma.
A sigma ends a word if a letter stands before it and none behind it, accents and the like
left aside.
-/
import Folio.Text.Letter
import Folio.Text.CaseTable
import Folio.Text.LetterTable

namespace Folio.Text

/-- Where a run sends a code point that belongs to it. -/
def CaseRun.map? (r : CaseRun) (n : Nat) : Option Nat :=
  if r.first ≤ n && n ≤ r.last && (n - r.first) % r.step = 0 then
    some (Int.toNat (n + r.shift))
  else none

def mapByRuns (runs : Array CaseRun) (c : Char) : Char :=
  match runs.findSome? (·.map? c.toNat) with
  | some n => Char.ofNat n
  | none => c

def upperChars (c : Char) : List Char :=
  if c.toNat < 128 then [c.toUpper]
  else
    match upperExpansions.find? (·.1 = c.toNat) with
    | some (_, ns) => ns.map Char.ofNat
    | none => [mapByRuns upperRuns c]

def lowerChars (c : Char) : List Char :=
  if c.toNat < 128 then [c.toLower]
  else if c.toNat = 0x130 then ['i', '\u0307']
  else [mapByRuns lowerRuns c]

def Stride.has (r : Stride) (n : Nat) : Bool :=
  r.first ≤ n && n ≤ r.last && (n - r.first) % r.step = 0

def isIn (rows : Array Stride) (c : Char) : Bool := rows.any (·.has c.toNat)

/-- The characters with the Unicode property Lowercase. -/
def isLowercase (c : Char) : Bool :=
  if c.toNat < 128 then 'a' ≤ c && c ≤ 'z' else isIn lowercaseRows c

/-- The characters with the Unicode property Uppercase. -/
def isUppercase (c : Char) : Bool :=
  if c.toNat < 128 then 'A' ≤ c && c ≤ 'Z' else isIn uppercaseRows c

def isCased (c : Char) : Bool := isLowercase c || isUppercase c || isIn titlecaseRows c

/-- Whether a letter comes first, once accents and the like are left aside. -/
def beginsCased (cs : List Char) : Bool :=
  ((cs.dropWhile (isIn caseIgnorableRows)).head?.map isCased).getD false

def upper (s : String) : String :=
  String.ofList (s.toList.flatMap upperChars)

/-- The small form of a character list, given the characters before it, nearest first. -/
def lowerAfter : List Char → List Char → List Char
  | _, [] => []
  | before, c :: rest =>
    let final := c = 'Σ' && beginsCased before && !beginsCased rest
    (if final then ['ς'] else lowerChars c) ++ lowerAfter (c :: before) rest

def lower (s : String) : String :=
  String.ofList (lowerAfter [] s.toList)

/-- A capital first character, and small letters after it. -/
def capitalize (s : String) : String :=
  match s.toList with
  | [] => ""
  | c :: rest => String.ofList (upperChars c ++ lowerAfter [] rest)

/-- Every word with a capital first letter; words end at blanks and at punctuation. -/
def titleFrom : Bool → List Char → List Char
  | _, [] => []
  | atStart, c :: rest =>
    if isPunctuation c || isBlank c then c :: titleFrom true rest
    else (if atStart then upperChars c else lowerChars c) ++ titleFrom false rest

def title (s : String) : String :=
  String.ofList (titleFrom true s.toList)

end Folio.Text
