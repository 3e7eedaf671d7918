/-
Why a site cannot be built, a page cannot be rendered, or options cannot be read.

Every error has a message; where the cause lies outside, the message ends with the text of
the cause.
-/
import Folio.Discovery
import Folio.Template.Error

namespace Folio

/-- The message of a directory that could not be walked. -/
def DiscoveryError.message (e : DiscoveryError) : String :=
  "failed to walk template directory " ++ e.path.text ++ ": " ++ e.cause.text

/-- Why a site cannot be built. -/
inductive BuildError where
  | discovery (e : DiscoveryError)
  /-- A template file cannot be read. -/
  | read (path : Path) (cause : IoError)
  /-- A template in the bundle of a page cannot be compiled. -/
  | compile (page : Path) (cause : Template.Error)
  /-- A template calls names that nothing provides. -/
  | unresolvedName (page : Path) (template : String) (names : List String)
  /-- Two pages have the same base name, and this is refused. -/
  | collision (name : String) (existing conflicting : Path)
  deriving DecidableEq, Inhabited, Repr

namespace BuildError

def message : BuildError → String
  | .discovery e => e.message
  | .read path cause => "failed to read template " ++ path.text ++ ": " ++ cause.text
  | .compile page cause => "failed to compile bundle for " ++ page.text ++ ": " ++ cause.text
  | .unresolvedName page template names =>
    "unresolved name(s) " ++ String.intercalate ", " names ++ " in template \"" ++ template ++
      "\" (bundle for " ++ page.text ++ ")"
  | .collision name existing conflicting =>
    "bundle name collision for \"" ++ name ++ "\":\n  - " ++ existing.text ++ "\n  - " ++
      conflicting.text

def source? : BuildError → Option String
  | .discovery e => some e.cause.text
  | .read _ cause => some cause.text
  | .compile _ cause => some cause.text
  | .unresolvedName .. | .collision .. => none

end BuildError

/-- Why a page cannot be rendered. -/
inductive RenderError where
  | build (e : BuildError)
  /-- There is no bundle of the name. -/
  | notFound (name : String)
  /-- The bundle fails while it is executed. -/
  | execution (name : String) (cause : Template.Error)
  /-- The sink does not take the output. -/
  | io (cause : IoError)
  deriving DecidableEq, Inhabited, Repr

namespace RenderError

def message : RenderError → String
  | .build e => e.message
  | .notFound name => "bundle not found: " ++ name
  | .execution name cause => "failed to execute bundle " ++ name ++ ": " ++ cause.text
  | .io cause => "failed to write rendered output: " ++ cause.text

def source? : RenderError → Option String
  | .build e => e.source?
  | .notFound _ => none
  | .execution _ cause => some cause.text
  | .io cause => some cause.text

/-- Whether the bundle is missing, the one failure that is expected to happen. -/
def isNotFound : RenderError → Bool
  | .notFound _ => true
  | _ => false

end RenderError

end Folio
