/-
The names that stand in call position in the source of a template.

This is a scan of the text and knows neither the grammar nor the scopes of templates.  A
tag is what stands between a `{{` or `{%` and the next closing delimiter of its kind, even
if the delimiter is part of a string, a comment or raw text.  Inside of a tag, string
literals are skipped, and an identifier counts as called if the next character that is not
a blank is an opening parenthesis and the last one before it is neither `.` nor `|`.
-/
import Folio.Text.Letter

namespace Folio.Template.Calls

/-- The two characters that close a tag, by the second character that opened it. -/
def closingPair? : Char → Option (Char × Char)
  | '\x7b' => some ('\x7d', '\x7d')
  | '%' => some ('%', '\x7d')
  | _ => none

/-- What stands before the first `a` that is followed by `b`, and what is left from that
`a` on; the whole text if there is none. -/
def splitBeforePair (a b : Char) : List Char → List Char × List Char
  | [] => ([], [])
  | c :: rest =>
    if c = a ∧ rest.head? = some b then ([], c :: rest)
    else
      let (body, left) := splitBeforePair a b rest
      (c :: body, left)

theorem append_splitBeforePair (a b : Char) (cs : List Char) :
    (splitBeforePair a b cs).1 ++ (splitBeforePair a b cs).2 = cs := by
  fun_induction splitBeforePair a b cs with
  | case1 => rfl
  | case2 => rfl
  | case3 c rest _ body left h ih => simp_all

theorem length_splitBeforePair_le (a b : Char) (cs : List Char) :
    (splitBeforePair a b cs).2.length ≤ cs.length := by
  have h := congrArg List.length (append_splitBeforePair a b cs)
  simp only [List.length_append] at h
  omega

/-- The bodies of the tags of a source, in order.  The search goes on at a closing
delimiter, not behind it. -/
def tagBodies : List Char → List (List Char)
  | [] => []
  | [_] => []
  | c :: d :: rest =>
    if c = '\x7b' then
      match closingPair? d with
      | some (a, b) =>
        have := length_splitBeforePair_le a b rest
        (splitBeforePair a b rest).1 :: tagBodies (splitBeforePair a b rest).2
      | none => tagBodies (d :: rest)
    else tagBodies (d :: rest)
termination_by cs => cs.length

/-- What follows a string literal whose opening quote has been read.  A backslash takes the
character behind it along; a literal that is not closed runs to the end. -/
def afterQuote (quote : Char) : List Char → List Char
  | [] => []
  | '\\' :: _ :: rest => afterQuote quote rest
  | c :: rest => if c = quote then rest else afterQuote quote rest

theorem length_afterQuote_le (quote : Char) (cs : List Char) :
    (afterQuote quote cs).length ≤ cs.length := by
  fun_induction afterQuote quote cs with
  | case1 => simp
  | case2 _ _ ih => simp only [List.length_cons]; omega
  | case3 => simp
  | case4 _ _ _ _ ih => simp only [List.length_cons]; omega

/-- Whether the first character that is not a blank is an opening parenthesis. -/
def opensCall (cs : List Char) : Bool :=
  (cs.dropWhile Text.isTagBlank).head? = some '('

/-- The names called in the body of a tag, in order; `before` is the last character before
it that is not a blank. -/
def namesIn (before : Char) : List Char → List (List Char)
  | [] => []
  | c :: rest =>
    if c = '"' || c = '\'' then
      have := length_afterQuote_le c rest
      namesIn c (afterQuote c rest)
    else if Text.isWordStart c then
      have : (rest.dropWhile Text.isWordChar).length ≤ rest.length :=
        (List.dropWhile_suffix _).length_le
      let later := namesIn 'a' (rest.dropWhile Text.isWordChar)
      if opensCall (rest.dropWhile Text.isWordChar) && before ≠ '.' && before ≠ '|' then
        (c :: rest.takeWhile Text.isWordChar) :: later
      else later
    else namesIn (if Text.isTagBlank c then before else c) rest
termination_by cs => cs.length

end Calls

/-- The names that stand in call position in a source. -/
def calledNames (source : String) : List String :=
  ((Calls.tagBodies source.toList).flatMap (Calls.namesIn ' ')).map String.ofList

end Folio.Template
