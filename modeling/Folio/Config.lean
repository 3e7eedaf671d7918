/-
The settings of a site.

A configuration is put together from its defaults by setting one thing after the other or
by applying options, which are partial configurations.  Of two values for a setting the
later one counts; functions are added to those already there.
-/
import Folio.Function
import Folio.Path

namespace Folio

/-- What happens when two pages have the same base name. -/
inductive CollisionPolicy where
  /-- The page found later takes the place of the earlier one. -/
  | overwrite
  /-- The site is refused. -/
  | reject
  deriving DecidableEq, Inhabited, Repr

def CollisionPolicy.name : CollisionPolicy → String
  | .overwrite => "overwrite"
  | .reject => "reject"

def CollisionPolicy.ofName? (name : String) : Option CollisionPolicy :=
  [overwrite, reject].find? (·.name = name)

/-- The settings of a site. -/
structure Config where
  fragmentsRoot : Path := ⟨"templates"⟩
  pagesRoot : Path := ⟨"templates/pages"⟩
  /-- Whether the bundles are built once and kept. -/
  cacheEnabled : Bool := false
  /-- How the names of template files end. -/
  extension : String := ".html"
  undefined : UndefinedMode := .strict
  collisions : CollisionPolicy := .overwrite
  functions : Registry := .standard

/-- Settings to apply to a configuration; what is not set stays as it is. -/
structure Options where
  fragmentsRoot : Option Path := none
  pagesRoot : Option Path := none
  cacheEnabled : Option Bool := none
  extension : Option String := none
  undefined : Option UndefinedMode := none
  collisions : Option CollisionPolicy := none
  functions : Registry := {}

namespace Options

def withFragmentsRoot (o : Options) (root : Path) : Options :=
  { o with fragmentsRoot := some root }

def withPagesRoot (o : Options) (root : Path) : Options := { o with pagesRoot := some root }

def withCache (o : Options) (enabled : Bool) : Options := { o with cacheEnabled := some enabled }

def withExtension (o : Options) (extension : String) : Options :=
  { o with extension := some extension }

def withUndefined (o : Options) (mode : UndefinedMode) : Options :=
  { o with undefined := some mode }

def withCollisions (o : Options) (policy : CollisionPolicy) : Options :=
  { o with collisions := some policy }

def withFunction (o : Options) (name : String) (f : Function) : Options :=
  { o with functions := o.functions.insert name (.function f) }

end Options

namespace Config

def withFragmentsRoot (c : Config) (root : Path) : Config := { c with fragmentsRoot := root }

def withPagesRoot (c : Config) (root : Path) : Config := { c with pagesRoot := root }

def withCache (c : Config) (enabled : Bool) : Config := { c with cacheEnabled := enabled }

def withExtension (c : Config) (extension : String) : Config := { c with extension := extension }

def withUndefined (c : Config) (mode : UndefinedMode) : Config := { c with undefined := mode }

def withCollisions (c : Config) (policy : CollisionPolicy) : Config :=
  { c with collisions := policy }

def withFunction (c : Config) (name : String) (f : Function) : Config :=
  { c with functions := c.functions.insert name (.function f) }

def withFunctions (c : Config) (functions : Registry) : Config :=
  { c with functions := c.functions.merge functions }

/-- Applies options. -/
def apply (c : Config) (o : Options) : Config where
  fragmentsRoot := o.fragmentsRoot.getD c.fragmentsRoot
  pagesRoot := o.pagesRoot.getD c.pagesRoot
  cacheEnabled := o.cacheEnabled.getD c.cacheEnabled
  extension := o.extension.getD c.extension
  undefined := o.undefined.getD c.undefined
  collisions := o.collisions.getD c.collisions
  functions := c.functions.merge o.functions

/-- Applies options one after the other. -/
def applyAll (c : Config) (os : List Options) : Config := os.foldl apply c

end Config

end Folio
