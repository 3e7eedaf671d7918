/-
A text between double quotes, with every character that would not show itself written as
an escape.  Strings inside lists and maps, and names in diagnostic output, are shown so.
-/
import Folio.Text.PrintableTable

namespace Folio.Text

/-- Whether a character is shown as itself inside quotes. -/
def isPrintable (c : Char) : Bool :=
  let n := c.toNat
  if n < 128 then 0x20 ≤ n && n < 0x7F
  else !unprintableRanges.any fun r => r.1 ≤ n && n ≤ r.2

def hexDigits (n : Nat) : List Char :=
  Nat.toDigits 16 n

def quoteChar (c : Char) : List Char :=
  match c with
  | '"' => ['\\', '"']
  | '\\' => ['\\', '\\']
  | '\n' => ['\\', 'n']
  | '\r' => ['\\', 'r']
  | '\t' => ['\\', 't']
  | '\x00' => ['\\', '0']
  | c => if isPrintable c then [c] else ['\\', 'u', '\x7b'] ++ hexDigits c.toNat ++ ['\x7d']

def quoted (s : String) : String :=
  String.ofList ('"' :: s.toList.flatMap quoteChar ++ ['"'])

end Folio.Text
