/-
What a site reports while it is built and rendered.

Two things that it reports are left out: the text of the error in the three events of level
`error`, and the time that a build took in the event that the cache is built.
-/
import Folio.Json.Basic
import Folio.Path

namespace Folio

/-- How much an event matters. -/
inductive Level where
  | debug | info | warn | error
  deriving DecidableEq, Inhabited, Repr

def Level.name : Level → String
  | .debug => "debug"
  | .info => "info"
  | .warn => "warn"
  | .error => "error"

/-- An event. -/
inductive Event where
  | functionRegistered (name : String)
  | bundleCompiled (bundle : String) (page : Path) (templates : Nat)
  /-- A page took the place of another one of the same base name. -/
  | pageReplaced (bundle : String) (replaced winner : Path)
  | cacheBuilt (bundles fragments : Nat)
  | buildFailed
  | bundleNotFound (name : String)
  | executionFailed (name : String)
  | writeFailed (name : String)
  deriving DecidableEq, Inhabited, Repr

namespace Event

def level : Event → Level
  | .functionRegistered _ | .bundleCompiled .. => .debug
  | .cacheBuilt .. => .info
  | .pageReplaced .. | .bundleNotFound _ => .warn
  | .buildFailed | .executionFailed _ | .writeFailed _ => .error

def message : Event → String
  | .functionRegistered _ => "Function registered"
  | .bundleCompiled .. => "Bundle compiled"
  | .pageReplaced .. => "Duplicate page name, later file wins"
  | .cacheBuilt .. => "Bundle cache built"
  | .buildFailed => "Failed to build bundle cache"
  | .bundleNotFound _ => "Bundle not found"
  | .executionFailed _ => "Failed to execute bundle"
  | .writeFailed _ => "Failed to write rendered output"

def fields : Event → List (String × Json)
  | .functionRegistered name => [("function", .str name)]
  | .bundleCompiled bundle page templates =>
    [("bundle", .str bundle), ("page", .str page.text), ("templates", .int templates)]
  | .pageReplaced bundle replaced winner =>
    [("bundle", .str bundle), ("replaced", .str replaced.text), ("with", .str winner.text)]
  | .cacheBuilt bundles fragments => [("bundles", .int bundles), ("fragments", .int fragments)]
  | .buildFailed => []
  | .bundleNotFound name | .executionFailed name | .writeFailed name => [("bundle", .str name)]

/-- An event as JSON. -/
def toJson (e : Event) : Json :=
  Json.ofFields (("level", .str e.level.name) :: ("message", .str e.message) :: e.fields)

end Event

end Folio
