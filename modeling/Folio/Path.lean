/-
Paths as they are written, and the names they lead through.

A path keeps its spelling, because messages and results show it; what it means is the list
of its components.  Repeated slashes, a slash at the end and every `.` but a leading one
add no component, so `./a//b/.` and `./a/b` have the same components while `a/b` differs
from both.  A path is a text: spellings that are not UTF-8 are left out.
-/
namespace Folio

/-- A path, spelled as it was given. -/
structure Path where
  text : String
  deriving DecidableEq, Inhabited, Repr

/-- One step of a path. -/
inductive Component where
  | root
  | here
  | up
  | name (s : String)
  deriving DecidableEq, Inhabited, Repr

def Component.text : Component → String
  | .root => "/"
  | .here => "."
  | .up => ".."
  | .name s => s

/-- The pieces of a text between slashes; one more than there are slashes. -/
def segments : List Char → List (List Char)
  | [] => [[]]
  | c :: rest =>
    if c = '/' then [] :: segments rest
    else
      match segments rest with
      | [] => [[c]]
      | s :: more => (c :: s) :: more

/-- The step that a piece between slashes stands for, anywhere but at the start. -/
def Component.ofSegment? (s : List Char) : Option Component :=
  if s = [] ∨ s = ['.'] then none
  else if s = ['.', '.'] then some .up
  else some (.name (String.ofList s))

namespace Path

/-- The steps of a path. -/
def components (p : Path) : List Component :=
  match segments p.text.toList with
  | [] => []
  | first :: rest =>
    let steps := (first :: rest).filterMap Component.ofSegment?
    if first = ['.'] then .here :: steps
    else if first = [] ∧ rest ≠ [] then .root :: steps
    else steps

def join (p : Path) (entry : String) : Path :=
  match p.text.toList.getLast? with
  | none => ⟨entry⟩
  | some '/' => ⟨p.text ++ entry⟩
  | some _ => ⟨p.text ++ "/" ++ entry⟩

def fileName? (p : Path) : Option String :=
  match p.components.getLast? with
  | some (.name s) => some s
  | _ => none

end Path

/-- What is left of the steps `xs` after the steps `ys`, if they begin with them. -/
def stepsAfter? : List Component → List Component → Option (List Component)
  | [], xs => some xs
  | _ :: _, [] => none
  | y :: ys, x :: xs => if x = y then stepsAfter? ys xs else none

/-- The steps of `p` below `root`, or all of them if it does not lie there. -/
def Path.stepsBelow (p root : Path) : List Component :=
  (stepsAfter? root.components p.components).getD p.components

/-- The steps of `p` below `root` with slashes between them. -/
def Path.relativeText (p root : Path) : String :=
  String.intercalate "/" ((p.stepsBelow root).map Component.text)

end Folio
