/-
Bundles: pages that are ready to be rendered.

A bundle holds one page together with all fragments.  A fragment is known by its path below
the fragments' root and the page by its base name, which is also the name of the bundle; a
fragment of that very name is hidden by the page.
-/
import Folio.Config
import Folio.Site.Error
import Folio.Template.Eval
import Folio.Text.Quoted
import Folio.View

namespace Folio

/-- A page that is ready to be rendered. -/
structure Bundle where
  name : String
  page : Path
  env : Template.Environment

namespace Bundle

/-- The names of all templates in a bundle, in increasing order. -/
def templateNames (b : Bundle) : List String := b.env.templates.keys

/-- What the page of a bundle writes in a context. -/
def execute (b : Bundle) (context : Template.Value) : Except Template.Error String :=
  match b.env.templates.get? b.name with
  | some t => b.env.render t context
  | none => .error { origin := { kind := .templateNotFound } }

def debugText (b : Bundle) : String :=
  "CompiledBundle \x7b name: " ++ Text.quoted b.name ++ ", page: " ++ Text.quoted b.page.text ++
    ", templates: [" ++ String.intercalate ", " (b.templateNames.map Text.quoted) ++ "] \x7d"

end Bundle

/-- All bundles of a site by name. -/
abbrev Cache := Dict Bundle

namespace Cache

def names (c : Cache) : List String := c.keys

def debugText (c : Cache) : String :=
  if c.isEmpty then "BundleCache \x7b bundles: \x7b\x7d \x7d"
  else "BundleCache \x7b bundles: \x7b" ++ String.intercalate ", "
    (c.entries.map fun e => Text.quoted e.1 ++ ": " ++ e.2.debugText) ++ "\x7d \x7d"

end Cache

end Folio
