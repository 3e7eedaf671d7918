/-
The tokens of a template.

Outside of tags a template is text.  `{{ }}` holds an expression, `{% %}` a statement and
`{# #}` a comment, which is skipped; what stands between the statements `raw` and
`endraw` is text whatever it looks like.  A sign next to a tag's delimiter says what
happens to the white space on that side: `-` drops it, `+` keeps it.

Every token comes with the line it starts on.  When the text stops being readable, the
tokens up to there are followed by the reason.
-/
import Folio.Template.Error
import Folio.Template.Spelling

namespace Folio.Template

/-- A token. -/
inductive Token where
  | text (s : String)
  | outputStart | outputEnd
  | tagStart | tagEnd
  | ident (s : String)
  | str (s : String)
  | int (n : Nat)
  | float (x : Float)
  | plus | minus | star | starStar | slash | slashSlash | percent
  | tilde | pipe | dot | comma | colon | assign
  | eq | ne | lt | le | gt | ge
  | parenOpen | parenClose | bracketOpen | bracketClose | braceOpen | braceClose
  deriving Inhabited

def Token.ofNumeral : Numeral → Token
  | .int n => .int n
  | .float x => .float x

def Token.isDot : Token → Bool | .dot => true | _ => false

/-- A token and the line on which it starts. -/
structure Located where
  token : Token
  line : Nat
  deriving Inhabited

/-- Why a text is not readable any further.  A failure without a line of its own belongs to
the token before it. -/
structure Unreadable where
  kind : ErrorKind
  line : Option Nat := none
  deriving Inhabited

/-- The tokens of a template, and why there are no more if the text is not readable to its
end. -/
structure Tokens where
  list : List Located := []
  failure : Option Unreadable := none
  deriving Inhabited

namespace Tokens

def broken (line : Nat) : Tokens :=
  { failure := some { kind := .syntaxError, line := some line } }

/-- No tokens, because of an escape without meaning in a string literal. -/
def badEscape : Tokens := { failure := some { kind := .badEscape } }

def cons (token : Token) (line : Nat) (rest : Tokens) : Tokens :=
  { rest with list := ⟨token, line⟩ :: rest.list }

end Tokens

/-- What a sign at a delimiter asks for. -/
inductive Sign where
  | plain
  | keep
  | drop
  deriving DecidableEq, Inhabited, Repr

def takeSign : List Char → Sign × List Char
  | '-' :: rest => (.drop, rest)
  | '+' :: rest => (.keep, rest)
  | rest => (.plain, rest)

/-- The three kinds of tags. -/
inductive TagKind where
  | output
  | statement
  | comment
  deriving DecidableEq, Inhabited, Repr

def TagKind.closing : TagKind → Char × Char
  | .output => ('\x7d', '\x7d')
  | .statement => ('%', '\x7d')
  | .comment => ('#', '\x7d')

/-- How many lines further the end of a text is than its start. -/
def lineBreaks (cs : List Char) : Nat := cs.count '\n'

/-- The text before the first tag, and the kind of the tag with what follows its opening. -/
def splitAtTag : List Char → List Char × Option (TagKind × List Char)
  | [] => ([], none)
  | '\x7b' :: '\x7b' :: rest => ([], some (.output, rest))
  | '\x7b' :: '%' :: rest => ([], some (.statement, rest))
  | '\x7b' :: '#' :: rest => ([], some (.comment, rest))
  | c :: rest =>
    let (lead, tag) := splitAtTag rest
    (c :: lead, tag)

/-- What stands before the first `a` that is followed by `b`, and what stands after them. -/
def splitAtPair? (a b : Char) : List Char → Option (List Char × List Char)
  | [] => none
  | c :: rest =>
    match rest with
    | d :: after =>
      if c = a ∧ d = b then some ([], after)
      else (splitAtPair? a b rest).map fun (lead, after) => (c :: lead, after)
    | [] => none

def afterStart? : List Char → List Char → Option (List Char)
  | [], cs => some cs
  | _ :: _, [] => none
  | a :: as, c :: cs => if a = c then afterStart? as cs else none

/-- Reads on from the opening of a statement tag that holds one word only: the sign before
its closing, and what follows it. -/
def bareTag? (word : String) (cs : List Char) : Option (Sign × List Char) := do
  let rest ← afterStart? word.toList (cs.dropWhile Text.isTagBlank)
  let (sign, rest) := takeSign (rest.dropWhile Text.isTagBlank)
  let rest ← afterStart? ['%', '\x7d'] rest
  return (sign, rest)

/-- The body of a raw section, the signs at both ends of the tag that closes it, and what
follows. -/
def splitAtEndRaw? : List Char → Option (List Char × Sign × Sign × List Char)
  | [] => none
  | c :: rest =>
    let closing :=
      match c, rest with
      | '\x7b', '%' :: inner =>
        let (sign, inner) := takeSign inner
        (bareTag? "endraw" inner).map fun (after, rest) => (sign, after, rest)
      | _, _ => none
    match closing with
    | some (before, after, rest) => some ([], before, after, rest)
    | none => (splitAtEndRaw? rest).map fun (body, more) => (c :: body, more)

/-! ### The tokens of a tag -/

/-- The token of two characters that a tag continues with. -/
def pairToken? : Char → Char → Option Token
  | '/', '/' => some .slashSlash
  | '*', '*' => some .starStar
  | '=', '=' => some .eq
  | '!', '=' => some .ne
  | '>', '=' => some .ge
  | '<', '=' => some .le
  | _, _ => none

/-- The token of one character that a tag continues with, and by how much it changes the
number of open brackets. -/
def charToken? : Char → Option (Token × Int)
  | '+' => some (.plus, 0)
  | '-' => some (.minus, 0)
  | '*' => some (.star, 0)
  | '/' => some (.slash, 0)
  | '%' => some (.percent, 0)
  | '.' => some (.dot, 0)
  | ',' => some (.comma, 0)
  | ':' => some (.colon, 0)
  | '~' => some (.tilde, 0)
  | '|' => some (.pipe, 0)
  | '=' => some (.assign, 0)
  | '>' => some (.gt, 0)
  | '<' => some (.lt, 0)
  | '(' => some (.parenOpen, 1)
  | ')' => some (.parenClose, -1)
  | '[' => some (.bracketOpen, 1)
  | ']' => some (.bracketClose, -1)
  | '\x7b' => some (.braceOpen, 1)
  | '\x7d' => some (.braceClose, -1)
  | _ => none

/-- The closing of a tag at the front of a text: its sign, and what follows. -/
def closing? (kind : TagKind) (cs : List Char) : Option (Sign × List Char) := do
  let (sign, rest) := takeSign cs
  let rest ← afterStart? [kind.closing.1, kind.closing.2] rest
  return (sign, rest)

/-- A token at the front of a text inside a tag. -/
structure FrontToken where
  token : Token
  /-- By how much it changes the number of open brackets. -/
  change : Int := 0
  /-- How many lines further it ends than it starts. -/
  breaks : Nat := 0
  /-- What follows it. -/
  rest : List Char
  deriving Inhabited

/-- The token that a text inside a tag begins with, or why there is none; `dotted` tells that
the last token was a point. -/
def readToken (dotted : Bool) : List Char → Except ErrorKind FrontToken
  | [] => .error .syntaxError
  | c :: rest =>
    match rest.head?.bind (pairToken? c) with
    | some token => .ok { token, rest := rest.tail }
    | none =>
      match charToken? c with
      | some (token, change) => .ok { token, change, rest }
      | none =>
        if c = '\'' || c = '"' then
          match splitAtQuote? c rest with
          | none => .error .syntaxError
          | some (inner, rest) =>
            match unescape? (inner.length + 1) inner with
            | none => .error .badEscape
            | some s => .ok { token := .str (String.ofList s), breaks := lineBreaks inner, rest }
        else if Text.isDigit c then
          match if dotted then readPlace (c :: rest) else readNumeral (c :: rest) with
          | (some n, rest) => .ok { token := .ofNumeral n, rest }
          | (none, _) => .error .syntaxError
        else if Text.isWordStart c then
          .ok {
            token := .ident (String.ofList (c :: rest.takeWhile Text.isWordChar))
            rest := rest.dropWhile Text.isWordChar }
        else .error .syntaxError

mutual

/-- The tokens of a text outside of tags.  `dropBlanks` tells that white space at its start
is dropped. -/
def lexText : Nat → Bool → Nat → List Char → Tokens
  | 0, _, line, _ => .broken line
  | fuel + 1, dropBlanks, line, cs =>
    let blanks := if dropBlanks then cs.takeWhile Text.isBlank else []
    let line := line + lineBreaks blanks
    let (lead, tag) := splitAtTag (cs.drop blanks.length)
    let after := line + lineBreaks lead
    let (sign, inner) := takeSign ((tag.map (·.2)).getD [])
    let content := if tag.isSome && sign = .drop then Text.dropBlankEnd lead else lead
    let rest : Tokens :=
      match tag with
      | none => {}
      | some (.output, _) => .cons .outputStart after (lexTag fuel .output 0 false after inner)
      | some (.statement, _) =>
        match bareTag? "raw" inner with
        | some (rawSign, body) =>
          let start := after + lineBreaks inner - lineBreaks body
          match splitAtEndRaw? body with
          | some (raw, before, behind, rest) =>
            let raw := if rawSign = .drop then raw.dropWhile Text.isBlank else raw
            let raw := if before = .drop then Text.dropBlankEnd raw else raw
            let line := start + lineBreaks body - lineBreaks rest
            .cons (.text (String.ofList raw)) start (lexText fuel (behind = .drop) line rest)
          | none => .broken (start + lineBreaks body)
        | none => .cons .tagStart after (lexTag fuel .statement 0 false after inner)
      | some (.comment, _) =>
        match splitAtPair? '#' '\x7d' inner with
        | some (body, rest) =>
          lexText fuel (body.getLast? = some '-') (after + lineBreaks body) rest
        | none => .broken (after + lineBreaks inner)
    if content.isEmpty then rest else .cons (.text (String.ofList content)) line rest

/-- The tokens from somewhere inside a tag on.  A closing delimiter only counts where no
bracket is open; `dotted` tells that the last token was a point. -/
def lexTag : Nat → TagKind → Int → Bool → Nat → List Char → Tokens
  | 0, _, _, _, line, _ => .broken line
  | fuel + 1, kind, depth, dotted, line, cs =>
    match cs with
    | [] => {}
    | c :: rest =>
      if Text.isTagBlank c then
        lexTag fuel kind depth dotted (if c = '\n' then line + 1 else line) rest
      else
        match if depth = 0 then closing? kind cs else none with
        | some (sign, rest) =>
          .cons (if kind = .output then .outputEnd else .tagEnd) line
            (lexText fuel (sign = .drop) line rest)
        | none =>
          match readToken dotted cs with
          | .ok front =>
            .cons front.token line
              (lexTag fuel kind (depth + front.change) front.token.isDot (line + front.breaks)
                front.rest)
          | .error .badEscape => .badEscape
          | .error _ => .broken line

end

/-- A source without the line break at its end, which does not count as part of it. -/
def withoutFinalBreak (cs : List Char) : List Char :=
  let cs := if cs.getLast? = some '\n' then cs.dropLast else cs
  if cs.getLast? = some '\r' then cs.dropLast else cs

def Tokens.ofSource (source : String) : Tokens :=
  let cs := withoutFinalBreak source.toList
  lexText (2 * cs.length + 2) false 1 cs

end Folio.Template
