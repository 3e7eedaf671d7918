/-
Parts of values: attributes, items and slices.
-/
import Folio.Template.Value.Operator

namespace Folio.Template.Value

def index? : Value → Option Int
  | .bool b => some (ofBool b)
  | .int n => if Number.fitsSigned 64 n then some n else Option.none
  | .float x => (Number.integral? x).bind fun n =>
      if Number.fitsSigned 64 n then some n else Option.none
  | _ => Option.none

/-- The place that an index means in a collection; a negative index counts from the end. -/
def place? (i : Int) (length : Nat) : Option Nat :=
  if 0 ≤ i then some i.toNat
  else if i.natAbs ≤ length then some (length - i.natAbs) else Option.none

def attr? (v : Value) (name : String) : Option Value :=
  v.entries?.bind (find? (text name))

/-- The value at a key or an index; an index from the end needs the number of items. -/
def item? (v key : Value) : Option Value :=
  match v with
  | .map _ | .roled .. => v.entries?.bind (find? key)
  | .list items | .stream _ items =>
    let place := (index? key).filter fun i => 0 ≤ i || v.isSized
    (place.bind (place? · items.length)).bind (items[·]?)
  | .str s _ =>
    (((index? key).bind (place? · s.length)).bind (s.toList[·]?)).map
      fun c => text (String.singleton c)
  | _ => Option.none

/-- The value that a path of attributes and indices leads to. -/
def path (v : Value) (keys : List String) : Except Fault Value :=
  keys.foldlM (fun v key =>
    if v.isUndefined then .error { kind := .undefinedValue }
    else
      let part :=
        match Text.unsignedOfChars? 10 key.toList with
        | some n => item? v (.int n)
        | Option.none => attr? v key
      .ok (part.getD missing)) v

/-- The pieces of a text between the given character. -/
def splitAt (sep : Char) : List Char → List (List Char)
  | [] => [[]]
  | c :: rest =>
    if c = sep then [] :: splitAt sep rest
    else
      match splitAt sep rest with
      | [] => [[c]]
      | piece :: pieces => (c :: piece) :: pieces

/-- The keys of a path that is written with points between them. -/
def pathKeys (s : String) : List String :=
  (splitAt '.' s.toList).map String.ofList

/-! ### Slices -/

def everyNth {α : Type} (step : Nat) : Nat → List α → List α
  | _, [] => []
  | 0, x :: rest => x :: everyNth step (step - 1) rest
  | skip + 1, _ :: rest => everyNth step skip rest

/-- A place counted from the start; a negative one counts from the end, and stops at the
start. -/
def fromStart (length : Nat) (place : Int) : Nat :=
  if place < 0 then ((length : Int) + place).toNat else place.toNat

def sliceForward {α : Type} (start stop : Option Int) (step : Nat) (items : List α) : List α :=
  let low := fromStart items.length (start.getD 0)
  let high := (stop.map (fromStart items.length)).getD items.length
  everyNth step 0 ((items.drop low).take (high - low))

/-- The items from a place down to another one, which is left out unless it is the first. -/
def sliceBackward {α : Type} (start stop : Option Int) (step : Nat) (items : List α) :
    List α :=
  let last := items.length - 1
  let high := (start.map fun s => Nat.min (fromStart items.length s) last).getD last
  let low := fromStart items.length (stop.getD 0)
  let count := if low = 0 then (high + step) / step else (high - low + step - 1) / step
  (everyNth step 0 (items.take (high + 1)).reverse).take count

/-- An end of a slice; nothing for one that is left open. -/
def sliceEnd : Value → Except Fault (Option Int)
  | .none => .ok Option.none
  | v =>
    match index? v with
    | some n => .ok (some n)
    | Option.none => notDefined

def slice (v start stop step : Value) : Except Fault Value := do
  let start ← sliceEnd start
  let stop ← sliceEnd stop
  let step := (← sliceEnd step).getD 1
  if step = 0 then notDefined
  else
    let cut {α : Type} (items : List α) : List α :=
      if 0 < step then sliceForward start stop step.toNat items
      else sliceBackward start stop step.natAbs items
    match v with
    | .str s _ => .ok (text (String.ofList (cut s.toList)))
    | .undefined _ | .none => .ok (.list [])
    | .list items | .stream _ items =>
      .ok (.stream (v.isSized || step < 0) (cut items))
    | _ => notDefined

end Folio.Template.Value
