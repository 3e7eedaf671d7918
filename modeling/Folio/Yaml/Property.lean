/-
Anchors, tags and directives in a YAML text.

An anchor names the node behind it, and an alias refers to it.  A tag says what a node is:
it is written out between angles, or as a handle and a suffix, and directives say what the
handles stand for.  A handle is an exclamation mark, or a name between two of them.  What is
written of a tag ends at a zero byte.
-/
import Folio.Yaml.Cursor
import Folio.Yaml.Scalar.Basic

namespace Folio.Yaml

/-- The name of an anchor or an alias at `c`, which is its indicator. -/
def anchorName? (c : Cursor) : Option (String × Cursor) :=
  let (name, c) := (c.advance 1).span isNameChar
  let ended := startsWithGap c.rest || c.rest.head?.any fun x => "?:,]\x7d%@`".contains x
  if name.isEmpty || !ended then none else some (String.ofList name, c)

/-- The characters of a tag besides percent signs.  Only where the tag is written out may
there be commas and square brackets. -/
def isTagChar (full : Bool) (c : Char) : Bool :=
  isNameChar c || ";/?:@&=+$.!~*'()".contains c || (full && ",[]".contains c)

/-- The bytes that percent signs spell, each with two hexadecimal digits. -/
def percentBytes : List Char → List UInt8
  | '%' :: a :: b :: rest =>
    match Text.natOfDigits? 16 [a, b] with
    | some n => UInt8.ofNat n :: percentBytes rest
    | none => []
  | _ => []

/-- How many bytes follow the given one in a sequence that it leads. -/
def trailing? (b : UInt8) : Option Nat :=
  if b < 0x80 then some 0
  else if 0xC0 ≤ b && b < 0xE0 then some 1
  else if 0xE0 ≤ b && b < 0xF0 then some 2
  else if 0xF0 ≤ b && b < 0xF8 then some 3
  else none

/-- Whether bytes are whole sequences, each of a leading byte and the bytes it asks for.  That
they spell characters is more than that. -/
def areSequences : Nat → List UInt8 → Bool
  | pending, [] => pending = 0
  | 0, b :: rest =>
    match trailing? b with
    | some pending => areSequences pending rest
    | none => false
  | pending + 1, b :: rest => 0x80 ≤ b && b < 0xC0 && areSequences pending rest

/-- The bytes of a tag from `c` on, and the place behind them. -/
def tagText? (full : Bool) : Nat → List UInt8 → Cursor → Option (List UInt8 × Cursor)
  | 0, _, _ => none
  | fuel + 1, text, c =>
    match c.rest with
    | [] => some (text, c)
    | x :: _ =>
      if x = '%' then
        let bytes := percentBytes c.rest
        if bytes.isEmpty || !areSequences 0 bytes then none
        else tagText? full fuel (text ++ bytes) (c.advance (3 * bytes.length))
      else if isTagChar full x then tagText? full fuel (text ++ [x.toUInt8]) (c.advance 1)
      else some (text, c)

def tagText (full : Bool) (c : Cursor) : Option (List UInt8 × Cursor) :=
  tagText? full (c.rest.length + 1) [] c

def Tag.ofWritten (bytes : List UInt8) : Tag := ⟨bytes.takeWhile (· ≠ 0)⟩

/-- A tag as it is written. -/
structure TagName where
  /-- Empty if the tag is written out. -/
  handle : String
  suffix : Tag
  deriving DecidableEq, Inhabited, Repr

def tagName? (flow : Bool) (c : Cursor) : Option (TagName × Cursor) := do
  let (tag, c) ←
    if c.rest.tail.head? = some '<' then do
      let (text, c) ← tagText true (c.advance 2)
      if text.isEmpty || c.rest.head? ≠ some '>' then none
      pure (TagName.mk "" (.ofWritten text), c.advance 1)
    else do
      let (name, c) := (c.advance 1).span isNameChar
      if c.rest.head? = some '!' then do
        let (text, c) ← tagText false (c.advance 1)
        if text.isEmpty then none
        pure (TagName.mk (String.ofList ('!' :: name ++ ['!'])) (.ofWritten text), c)
      else do
        let (text, c) ← tagText false c
        let suffix := Tag.ofWritten (name.map Char.toUInt8 ++ text)
        if suffix.bytes.isEmpty then pure (TagName.mk "" (.ofText "!"), c)
        else pure (TagName.mk "!" suffix, c)
  if startsWithGap c.rest || (flow && c.rest.head? = some ',') then some (tag, c) else none

/-- What a line with a percent sign says about the document that follows. -/
inductive Directive where
  | version (major minor : Nat)
  | tag (handle : String) (start : Tag)
  deriving DecidableEq, Inhabited, Repr

def shortNumber? (c : Cursor) : Option (Nat × Cursor) := do
  let (digits, c) := c.span Text.isDigit
  if 9 < digits.length then none
  return (← Text.natOfDigits? 10 digits, c)

def directive? (c : Cursor) : Option (Directive × Cursor) := do
  let (name, c) := (c.advance 1).span isNameChar
  if !startsWithGap c.rest then none
  let c := c.skipWhile isBlank
  match String.ofList name with
  | "YAML" => do
    let (major, c) ← shortNumber? c
    if c.rest.head? ≠ some '.' then none
    let (minor, c) ← shortNumber? (c.advance 1)
    return (.version major minor, ← c.endOfLine?)
  | "TAG" => do
    if c.rest.head? ≠ some '!' then none
    let (name, c) := (c.advance 1).span isNameChar
    let closed := c.rest.head? = some '!'
    if !closed && !name.isEmpty then none
    let c := if closed then c.advance 1 else c
    if !c.rest.head?.any isBlank then none
    let (text, c) ← tagText true (c.skipWhile isBlank)
    if text.isEmpty || !startsWithGap c.rest then none
    let handle := '!' :: name ++ (if closed then ['!'] else [])
    return (.tag (String.ofList handle) (.ofWritten text), ← c.endOfLine?)
  | _ => none

end Folio.Yaml
