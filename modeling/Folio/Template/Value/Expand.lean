/-
Values with the parts filled in that change while a template runs.
-/
import Folio.Template.Value.Basic

namespace Folio.Template.Value

mutual

/-- The value with what `look` gives in place of namespaces and loops. -/
def expand (look : Value → Value) : Value → Value
  | .list items => .list (expandItems look items)
  | .stream sized items => .stream sized (expandItems look items)
  | .map entries => .map (expandEntries look entries)
  | .roled role entries => .roled role (expandEntries look entries)
  | .space id => look (.space id)
  | .loop id => look (.loop id)
  | v => v

def expandItems (look : Value → Value) : List Value → List Value
  | [] => []
  | v :: rest => expand look v :: expandItems look rest

def expandEntries (look : Value → Value) : List (Value × Value) → List (Value × Value)
  | [] => []
  | (k, v) :: rest => (k, expand look v) :: expandEntries look rest

end

/-- The value with namespaces and loops filled in, as deep as they are nested within each
other up to `depth`. -/
def expandWithin (look : Value → Value) : Nat → Value → Value
  | 0, v => v
  | depth + 1, v => expand (fun v => expandWithin look depth (look v)) v

end Folio.Template.Value
