/-
Anti-forgery tokens.

A token source answers a request with the token that belongs to it.  Rendering asks it once
for every page and puts the answer into the view.  The answer is a function of the request
alone; a source that issues a new token each time is one whose requests tell the calls apart.
-/
namespace Folio

/-- Gives the token that belongs to a request. -/
structure TokenSource (Request : Type) where
  issue : Request → String

namespace TokenSource

/-- Gives the same token for every request. -/
def fixed {Request : Type} (token : String) : TokenSource Request := ⟨fun _ => token⟩

def prefixed (lead : String) : TokenSource String := ⟨fun request => lead ++ request⟩

end TokenSource

end Folio
