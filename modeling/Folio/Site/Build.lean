/-
Building a site.

Every page found below the pages' root is compiled into a bundle with all fragments, in the
order in which the pages are found.  In each of its templates a name that is called has to
be declared by the template or be known to the site: as a part of the view, as a registered
function or as a name of the template language.  The first failure ends the build.

Which template is reported, if several in one bundle call such names, depends on the order in
which the bundle lists its templates.  That order is open: every build is given one
(`TemplateOrder`), and two builds of the same files may be given different ones.

What is reported on the way is part of the result: a list of events next to the cache or
the error.
-/
import Folio.Site.Bundle
import Folio.Site.Event

namespace Folio

/-- Names of the template language that may be called without being registered. -/
def languageNames : List String :=
  ["range", "dict", "debug", "namespace", "loop", "self", "super", "caller", "varargs", "kwargs"]

/-- A template file together with its text. -/
structure Source where
  file : TemplateFile
  text : String
  deriving DecidableEq, Inhabited, Repr

/-- The orders in which the bundles of one build list their templates.  Nothing is known of them
but that a bundle lists all of its templates, and each of them once. -/
structure TemplateOrder where
  listed (page : Path) (templates : Dict Template) : List (String × Template)
  perm (page : Path) (templates : Dict Template) :
    (listed page templates).Perm templates.entries

/-- Every bundle lists its templates by name; a build that is given no order takes this one. -/
def TemplateOrder.byName : TemplateOrder where
  listed _ templates := templates.entries
  perm _ _ := .refl _

theorem TemplateOrder.mem_listed {order : TemplateOrder} {page : Path} {templates : Dict Template}
    {e : String × Template} : e ∈ order.listed page templates ↔ e ∈ templates.entries :=
  (order.perm page templates).mem_iff

/-- The result of a step of a build, and the events on the way. -/
structure Built (α : Type) where
  log : List Event
  result : Except BuildError α

namespace Build

/-- Whether a name may be called in every template of a site. -/
def provided (functions : Registry) (name : String) : Bool :=
  View.fields.contains name || languageNames.contains name || functions.contains name

/-- A name among others in increasing order. -/
def insertName (name : String) : List String → List String
  | [] => [name]
  | n :: rest =>
    if name < n then name :: n :: rest
    else if name = n then n :: rest
    else n :: insertName name rest

/-- The names that a template calls and nothing provides, in increasing order. -/
def unresolved (functions : Registry) (t : Template) : List String :=
  (t.freeCalls.filter fun name => !provided functions name).foldr insertName []

/-- Reports the first template that calls names that nothing provides. -/
def checkNames (functions : Registry) (page : Path) : List (String × Template) →
    Except BuildError Unit
  | [] => .ok ()
  | (name, t) :: rest =>
    match unresolved functions t with
    | [] => checkNames functions page rest
    | names => .error (.unresolvedName page name names)

/-- Compiles a template for the bundle of a page. -/
def compileTemplate (page : Path) (name source : String) : Except BuildError Template :=
  (Template.compile name source).mapError (.compile page)

/-- Compiles the fragments for the bundle of a page. -/
def compileFragments (page : Path) (templates : Dict Template) :
    List Source → Except BuildError (Dict Template)
  | [] => .ok templates
  | f :: rest => do
    let t ← compileTemplate page f.file.relativeName f.text
    compileFragments page (templates.insert f.file.relativeName t) rest

/-- The text of a template file. -/
def readSource (files : FileTree) (path : Path) : Except BuildError String :=
  (files.readText path).mapError fun fault => .read path { fault }

/-- The fragments with their texts. -/
def readFragments (files : FileTree) : List TemplateFile → Except BuildError (List Source)
  | [] => .ok []
  | file :: rest => do
    let text ← readSource files file.path
    let sources ← readFragments files rest
    return { file, text } :: sources

/-- The bundle of a page. -/
def compileBundle (config : Config) (files : FileTree) (order : TemplateOrder)
    (fragments : List Source) (page : TemplateFile) : Except BuildError Bundle := do
  let templates ← compileFragments page.path {} fragments
  let text ← readSource files page.path
  let t ← compileTemplate page.path page.name text
  let templates := templates.insert page.name t
  checkNames config.functions page.path (order.listed page.path templates)
  return {
    name := page.name
    page := page.path
    env := { templates, functions := config.functions, mode := config.undefined } }

/-- What is reported when a page meets an earlier one of its base name, or why it may not. -/
def settleCollision (policy : CollisionPolicy) (cache : Cache) (page : TemplateFile) :
    Except BuildError (List Event) :=
  match cache.get? page.name with
  | none => .ok []
  | some existing =>
    match policy with
    | .reject => .error (.collision page.name existing.page page.path)
    | .overwrite => .ok [.pageReplaced page.name existing.page page.path]

/-- Adds the bundles of pages to a cache, one after the other. -/
def addPages (config : Config) (files : FileTree) (order : TemplateOrder)
    (fragments : List Source) (cache : Cache) : List TemplateFile → Built Cache
  | [] => ⟨[], .ok cache⟩
  | page :: rest =>
    match compileBundle config files order fragments page with
    | .error e => ⟨[], .error e⟩
    | .ok bundle =>
      let compiled := Event.bundleCompiled page.name page.path (fragments.length + 1)
      match settleCollision config.collisions cache page with
      | .error e => ⟨[compiled], .error e⟩
      | .ok replaced =>
        let later := addPages config files order fragments (cache.insert page.name bundle) rest
        ⟨compiled :: replaced ++ later.log, later.result⟩

/-- Builds a site from its pages and the fragments with their texts. -/
def ofSources (config : Config) (files : FileTree) (order : TemplateOrder)
    (pages : List TemplateFile) (fragments : List Source) : Built Cache :=
  let registered := config.functions.names.map Event.functionRegistered
  let added := addPages config files order fragments {} pages
  match added.result with
  | .error e => ⟨registered ++ added.log, .error e⟩
  | .ok cache =>
    ⟨registered ++ added.log ++ [.cacheBuilt cache.size fragments.length], .ok cache⟩

/-- The pages of a site and its fragments with their texts. -/
def sources (config : Config) (files : FileTree) :
    Except BuildError (List TemplateFile × List Source) := do
  let pages ← (discoverTemplates files config.pagesRoot config.extension).mapError .discovery
  let found ← (discoverTemplates files config.fragmentsRoot config.extension).mapError .discovery
  let fragments ← readFragments files found
  return (pages, fragments)

end Build

/-- Builds a site. -/
def buildSite (config : Config) (files : FileTree) (order : TemplateOrder := .byName) :
    Built Cache :=
  match Build.sources config files with
  | .error e => ⟨[], .error e⟩
  | .ok (pages, fragments) => Build.ofSources config files order pages fragments

end Folio
