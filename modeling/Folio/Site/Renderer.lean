/-
Rendering pages on request.

Every operation first gets hold of the bundles: it builds them, or, if the site keeps its
bundles, uses those of the first build that succeeded.  To render a page it then looks up
the bundle, asks the token source for the token of the request and puts it into the view,
executes the bundle, and only then writes the output to the sink.

An operation is a step from a renderer to the next one, and everything it does on the way
is part of its result: the events it reports, the requests for which it asked for a token,
the view and the sink after it.
-/
import Folio.Sink
import Folio.Site.Build
import Folio.Token

namespace Folio

variable {Request : Type}

/-- A site that is being rendered. -/
structure Renderer (Request : Type) where
  config : Config
  tokens : TokenSource Request
  /-- The bundles that are kept. -/
  cached : Option Cache := none
  /-- How many builds have succeeded; a machine word that counted them would wrap around. -/
  builds : Nat := 0

/-- What an operation leads to. -/
structure Step (Request α : Type) where
  renderer : Renderer Request
  /-- The events it reported. -/
  log : List Event := []
  /-- The requests for which it asked for a token. -/
  asked : List Request := []
  result : Except RenderError α

namespace Renderer

/-- Builds the bundles. -/
def build (r : Renderer Request) (files : FileTree) (order : TemplateOrder) :
    Step Request Cache :=
  let built := buildSite r.config files order
  match built.result with
  | .ok cache =>
    { renderer := { r with builds := r.builds + 1 }, log := built.log, result := .ok cache }
  | .error e => { renderer := r, log := built.log ++ [.buildFailed], result := .error (.build e) }

/-- Gets hold of the bundles. -/
def bundles (r : Renderer Request) (files : FileTree) (order : TemplateOrder) :
    Step Request Cache :=
  if r.config.cacheEnabled then
    match r.cached with
    | some cache => { renderer := r, result := .ok cache }
    | none =>
      let step := r.build files order
      match step.result with
      | .ok cache => { step with renderer := { step.renderer with cached := some cache } }
      | .error _ => step
  else r.build files order

/-- Makes sure that the bundles can be built, and counts them. -/
def warm (r : Renderer Request) (files : FileTree) (order : TemplateOrder := .byName) :
    Step Request Nat :=
  let step := r.bundles files order
  { step with result := step.result.map Dict.size }

/-- The names of the bundles in increasing order. -/
def bundleNames (r : Renderer Request) (files : FileTree) (order : TemplateOrder := .byName) :
    Step Request (List String) :=
  let step := r.bundles files order
  { step with result := step.result.map Cache.names }

/-- The output of a page, and the view with the token of the request. -/
def renderText (r : Renderer Request) (files : FileTree) (request : Request) (name : String)
    (view : View) (order : TemplateOrder := .byName) : Step Request String × View :=
  let step := r.bundles files order
  match step.result with
  | .error e => ({ step with result := .error e }, view)
  | .ok cache =>
    match cache.get? name with
    | none =>
      ({ step with log := step.log ++ [.bundleNotFound name], result := .error (.notFound name) },
        view)
    | some bundle =>
      let view := view.withToken (r.tokens.issue request)
      match bundle.execute (.ofJson view.toJson) with
      | .ok output => ({ step with asked := [request], result := .ok output }, view)
      | .error e =>
        ({ step with
            log := step.log ++ [.executionFailed name], asked := [request]
            result := .error (.execution name e) },
          view)

/-- Writes the output of a page to a sink. -/
def render (r : Renderer Request) (files : FileTree) (request : Request) (name : String)
    (view : View) (sink : Sink) (order : TemplateOrder := .byName) :
    Step Request Unit × View × Sink :=
  let (step, view) := r.renderText files request name view order
  match step.result with
  | .error e => ({ step with result := .error e }, view, sink)
  | .ok output =>
    match sink.deliver output.toUTF8.toList with
    | (.ok (), sink) => ({ step with result := .ok () }, view, sink)
    | (.error fault, sink) =>
      ({ step with
          log := step.log ++ [.writeFailed name], result := .error (.io { fault }) },
        view, sink)

/-- What diagnostic output shows of the state of a renderer. -/
def debugText (r : Renderer Request) : String :=
  "cached: " ++ (match r.cached with
    | some cache => "Some(" ++ Number.intText cache.size ++ ")"
    | none => "None") ++ ", builds: " ++ Number.intText r.builds ++ " \x7d"

end Renderer

end Folio
