/-
Directory trees, as far as templates and option files need them.

A directory lists its entries in any order.  Links are kept as the text of their target
and are followed when a path leads through them, up to a fixed number of times.  A
directory may also be unreadable: it exists, but listing it fails.

The top of a tree is both the root, from which a path with a slash in front leads, and the
working directory, from which any other path does.  The names of entries are texts: names
that are not UTF-8, and what is made of them where a text is needed, are left out.
-/
import Folio.IoError
import Folio.Path

namespace Folio

/-- A file, a link, or a directory with its entries. -/
inductive FileTree where
  | file (bytes : ByteArray)
  | link (target : String)
  | dir (entries : List (String × FileTree))
  | unreadable (fault : IoFault)
  deriving Inhabited

namespace FileTree

/-- How many links may be followed on the way along one path. -/
def linkLimit : Nat := 40

/-- How many bytes the name of an entry may have. -/
def nameLimit : Nat := 255

/-- How many bytes a path may have. -/
def pathLimit : Nat := 4095

def child? (name : String) : List (String × FileTree) → Option FileTree
  | [] => none
  | (n, t) :: rest => if n = name then some t else child? name rest

/-- The node at a place, which is a list of names from the top. -/
def at? (t : FileTree) : List String → Option FileTree
  | [] => some t
  | name :: rest =>
    match t with
    | .dir entries => (child? name entries).bind (at? · rest)
    | _ => none

/-- The steps that the text of a link or a path asks for, with a last `.` for a slash at
the end: what it names has to be a directory. -/
def stepsOf (text : String) : List String :=
  let cs := text.toList
  let steps := ((segments cs).filter (· ≠ [])).map String.ofList
  if cs.getLast? = some '/' then steps ++ ["."] else steps

/-- The place from which the text of a link or a path leads on. -/
def origin (place : List String) (text : String) : List String :=
  if text.toList.head? = some '/' then [] else place

/-- Follows steps from the directory at `place`, given from its last name to its first, to
the place they lead to.  The number of steps taken is bounded by `fuel`. -/
def follow (t : FileTree) : Nat → Nat → List String → List String → Except IoFault (List String)
  | 0, _, _, _ => .error .filesystemLoop
  | _ + 1, _, place, [] => .ok place
  | fuel + 1, links, place, step :: rest =>
    match t.at? place.reverse with
    | none => .error .notFound
    | some (.dir entries) =>
      if step = "." then follow t fuel links place rest
      else if step = ".." then follow t fuel links place.tail rest
      else if nameLimit < step.utf8ByteSize then .error .invalidFilename
      else
        match child? step entries with
        | none => .error .notFound
        | some (.link target) =>
          match links with
          | 0 => .error .filesystemLoop
          | links + 1 =>
            if target = "" then .error .notFound
            else follow t fuel links (origin place target) (stepsOf target ++ rest)
        | some _ => follow t fuel links (step :: place) rest
    | some (.unreadable fault) =>
      if step = "." ∨ step = ".." then follow t fuel links place rest else .error fault
    | some _ => .error .notADirectory

def longestLink : FileTree → Nat
  | .file _ => 0
  | .link target => target.length
  | .dir entries => longestIn entries
  | .unreadable _ => 0
where
  longestIn : List (String × FileTree) → Nat
    | [] => 0
    | (_, t) :: rest => max (longestLink t) (longestIn rest)

/-- The place that a path leads to from the top of the tree.  A path with a zero character in
it, or one that is too long, leads nowhere. -/
def resolve (t : FileTree) (p : Path) : Except IoFault (List String) :=
  let cs := p.text.toList
  if '\x00' ∈ cs then .error .invalidInput
  else if pathLimit < p.text.utf8ByteSize then .error .invalidFilename
  else if cs = [] then .error .notFound
  else
    let bound := cs.length + 2 + (linkLimit + 1) * (t.longestLink + 2)
    (t.follow bound linkLimit [] (stepsOf p.text)).map List.reverse

def find (t : FileTree) (p : Path) : Except IoFault FileTree := do
  let place ← t.resolve p
  match t.at? place with
  | some node => .ok node
  | none => .error .notFound

def readBytes (t : FileTree) (p : Path) : Except IoFault ByteArray := do
  match ← t.find p with
  | .file bytes => .ok bytes
  | .dir _ | .unreadable _ => .error .isADirectory
  | .link _ => .error .notFound

/-- The text of the file at a path, which has to be UTF-8. -/
def readText (t : FileTree) (p : Path) : Except IoFault String := do
  match String.fromUTF8? (← t.readBytes p) with
  | some s => .ok s
  | none => .error .invalidData

def directory (t : FileTree) (p : Path) : Except IoFault FileTree := do
  match ← t.find p with
  | .dir entries => .ok (.dir entries)
  | .unreadable fault => .ok (.unreadable fault)
  | .file _ | .link _ => .error .notADirectory

/-! ### Editing -/

/-- The entries with one of them replaced, or added at the end. -/
def setEntry (name : String) (t : FileTree) :
    List (String × FileTree) → List (String × FileTree)
  | [] => [(name, t)]
  | (n, old) :: rest => if n = name then (name, t) :: rest else (n, old) :: setEntry name t rest

/-- The tree with `node` at a place, with the directories on the way there. -/
def put (node : FileTree) : List String → FileTree → FileTree
  | [], _ => node
  | name :: rest, t =>
    let entries :=
      match t with
      | .dir entries => entries
      | _ => []
    .dir (setEntry name (put node rest ((child? name entries).getD (.dir []))) entries)

def erase : List String → FileTree → FileTree
  | [], t => t
  | [name], .dir entries => .dir (entries.filter (·.1 ≠ name))
  | name :: rest, .dir entries =>
    match child? name entries with
    | some child => .dir (setEntry name (erase rest child) entries)
    | none => .dir entries
  | _ :: _, t => t

/-- The place that a path names, whether or not anything is there; links above the last
step are followed where they lead to a directory. -/
def placeFor (t : FileTree) (p : Path) : List String :=
  let steps := (stepsOf p.text).filter (· ≠ ".")
  match t.resolve ⟨String.intercalate "/" steps.dropLast⟩, steps.getLast? with
  | .ok place, some name => place ++ [name]
  | _, _ => steps

/-- Puts a file, a link or an empty directory at a path.  An existing directory keeps its
entries when a directory is asked for. -/
def store (t : FileTree) (p : Path) (node : FileTree) : FileTree :=
  let place := t.placeFor p
  match node, t.at? place with
  | .dir [], some (.dir _) => t
  | node, _ => put node place t

def discard (t : FileTree) (p : Path) : FileTree :=
  erase (t.placeFor p) t

end FileTree

end Folio
