/-
Finding the templates below a root.

A walk visits the entries of every directory in the order of their names and collects each
entry that is not a directory and whose name ends with the extension.  The order in which
a directory happens to list its entries has no influence.  A directory that cannot be
listed ends the walk, and nothing found so far is returned.  So does one whose path has
become too long; in a tree it is given as an unreadable one.
-/
import Folio.FileTree

namespace Folio

/-- A template file found below a root. -/
structure TemplateFile where
  /-- The base file name; a page is known by it. -/
  name : String
  /-- The path below the root, with slashes; a fragment is known by it. -/
  relativeName : String
  /-- The path to read the source from. -/
  path : Path
  deriving DecidableEq, Inhabited, Repr

/-- Describes the file at `path`, which is meant to lie below `root`. -/
def TemplateFile.ofPath (path root : Path) : TemplateFile where
  name := path.fileName?.getD ""
  relativeName := path.relativeText root
  path := path

/-- A directory that could not be walked. -/
structure DiscoveryError where
  path : Path
  cause : IoError
  deriving DecidableEq, Inhabited, Repr

namespace Discovery

/-- Puts an entry where its name belongs among entries in the order of their names. -/
def insertByName {α : Type} (e : String × α) : List (String × α) → List (String × α)
  | [] => [e]
  | f :: rest => if e.1 ≤ f.1 then e :: f :: rest else f :: insertByName e rest

/-- The entries in the order of their names. -/
def sortByName {α : Type} (entries : List (String × α)) : List (String × α) :=
  entries.foldr insertByName []

/-- Whether a file name ends with the extension. -/
def hasExtension (extension name : String) : Bool :=
  extension.toList.isSuffixOf name.toList

/-- The results of several walks one after the other, or the first failure among them. -/
def concat : List (String × Except DiscoveryError (List Path)) → Except DiscoveryError (List Path)
  | [] => .ok []
  | (_, .ok found) :: rest => (concat rest).map (found ++ ·)
  | (_, .error e) :: _ => .error e

mutual

/-- Walks the node at `path`, which `name` names in its directory. -/
def walkNode (extension : String) (path : Path) (name : String) :
    FileTree → Except DiscoveryError (List Path)
  | .dir entries => concat (sortByName (walkEntries extension path entries))
  | .unreadable fault => .error ⟨path, { fault }⟩
  | .file _ | .link _ => .ok (if hasExtension extension name then [path] else [])

/-- Walks every entry of the directory at `path`. -/
def walkEntries (extension : String) (path : Path) :
    List (String × FileTree) → List (String × Except DiscoveryError (List Path))
  | [] => []
  | (name, node) :: rest =>
    (name, walkNode extension (path.join name) name node) :: walkEntries extension path rest

end

end Discovery

/-- The paths of all files below `root` whose names end with `extension`. -/
def discover (files : FileTree) (root : Path) (extension : String) :
    Except DiscoveryError (List Path) :=
  match files.directory root with
  | .ok node => Discovery.walkNode extension root "" node
  | .error fault => .error ⟨root, { fault }⟩

/-- The templates below `root`. -/
def discoverTemplates (files : FileTree) (root : Path) (extension : String) :
    Except DiscoveryError (List TemplateFile) :=
  (discover files root extension).map fun paths => paths.map (TemplateFile.ofPath · root)

end Folio
