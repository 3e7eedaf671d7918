/-
Classes of characters.

Templates are read with the ASCII classes: an identifier is an ASCII word, and the blanks
between the words of a tag are the ASCII ones.  White space that is trimmed away around a
tag, or split at, is the wider Unicode class.
-/
namespace Folio.Text

/-- The blanks between the words of a tag: space, tab, line feed, form feed, carriage return. -/
def isTagBlank (c : Char) : Bool :=
  c = ' ' || c = '\t' || c = '\n' || c = '\x0c' || c = '\r'

/-- The characters with the Unicode property White_Space. -/
def isBlank (c : Char) : Bool :=
  let n := c.toNat
  (9 ≤ n && n ≤ 13) || n = 0x20 || n = 0x85 || n = 0xA0 || n = 0x1680 ||
    (0x2000 ≤ n && n ≤ 0x200A) || n = 0x2028 || n = 0x2029 || n = 0x202F || n = 0x205F ||
    n = 0x3000

def isLetter (c : Char) : Bool :=
  ('a' ≤ c && c ≤ 'z') || ('A' ≤ c && c ≤ 'Z')

def isDigit (c : Char) : Bool :=
  '0' ≤ c && c ≤ '9'

def isWordStart (c : Char) : Bool :=
  isLetter c || c = '_'

def isWordChar (c : Char) : Bool :=
  isWordStart c || isDigit c

/-- ASCII characters that are neither letters, digits, blanks nor controls. -/
def isPunctuation (c : Char) : Bool :=
  let n := c.toNat
  (0x21 ≤ n && n ≤ 0x2F) || (0x3A ≤ n && n ≤ 0x40) || (0x5B ≤ n && n ≤ 0x60) ||
    (0x7B ≤ n && n ≤ 0x7E)

def digitValue? (radix : Nat) (c : Char) : Option Nat :=
  let v :=
    if isDigit c then c.toNat - '0'.toNat
    else if 'a' ≤ c && c ≤ 'f' then c.toNat - 'a'.toNat + 10
    else if 'A' ≤ c && c ≤ 'F' then c.toNat - 'A'.toNat + 10
    else radix
  if v < radix then some v else none

/-- The number that a non-empty run of digits spells. -/
def natOfDigits? (radix : Nat) : List Char → Option Nat
  | [] => none
  | cs => cs.foldlM (fun n c => (digitValue? radix c).map (n * radix + ·)) 0

/-- The number that some characters spell in a radix; a plus sign may stand in front. -/
def unsignedOfChars? (radix : Nat) : List Char → Option Nat
  | '+' :: cs => natOfDigits? radix cs
  | cs => natOfDigits? radix cs

theorem isWordChar_of_isWordStart {c : Char} (h : isWordStart c) : isWordChar c := by
  simp [isWordChar, h]

def dropBlankEnd (cs : List Char) : List Char :=
  (cs.reverse.dropWhile isBlank).reverse

end Folio.Text
