/-
The filters of templates.

A filter is a function whose first argument is the value that it is applied to.
-/
import Folio.Text.Case
import Folio.Template.Arguments
import Folio.Template.Escape
import Folio.Template.Test

namespace Folio.Template

/-- What a filter knows about the template that uses it. -/
structure FilterScope where
  mode : UndefinedMode
  /-- How output is escaped where the filter is used. -/
  escape : Escape
  /-- How the output of the template is escaped at first. -/
  outer : Escape

namespace Filter

/-- The failure of a filter that is not defined on its subject. -/
def reject {α : Type} : Except Fault α := .error { kind := .invalidOperation }

/-- A filter that maps a text to a text; a safe text stays safe. -/
def mapText (scope : FilterScope) (f : String → String) : List Value → Except Fault Value :=
  Taking.apply do
    let v ← Taking.value
    let s ← Taking.asText scope.mode v
    return .ok (.str (f s) v.isSafe)

def itemsOf (scope : FilterScope) (v : Value) : Except Fault (List Value) :=
  match scope.mode.iterate v with
  | .ok items => .ok items
  | .error fault => .error { kind := .invalidOperation, cause := some fault.kind }

/-- A value with ASCII letters made small, as sorting compares it. -/
def foldCase (v : Value) : Value :=
  match v with
  | .str s safe => .str (String.ofList (s.toList.map Char.toLower)) safe
  | v => v

def sortOrder (caseSensitive : Bool) (a b : Value) : Ordering :=
  if caseSensitive then Value.order a b else Value.order (foldCase a) (foldCase b)

/-- A value put into its place among others, the greatest of which comes first. -/
def insertFromEnd {α : Type} (order : α → α → Ordering) (x : α) : List α → List α
  | [] => [x]
  | y :: rest => if order x y = .lt then y :: insertFromEnd order x rest else x :: y :: rest

/-- The values in increasing order; equal ones keep their places.  A short list is sorted by
insertion from the end, which matters where the order is not transitive. -/
def sortBy {α : Type} (order : α → α → Ordering) (items : List α) : List α :=
  if items.length ≤ 20 then
    (items.foldl (fun sorted x => insertFromEnd order x sorted) []).reverse
  else items.mergeSort fun a b => (order a b).isLE

def directed {α : Type} (reversed : Bool) (order : α → α → Ordering) (a b : α) : Ordering :=
  if reversed then (order a b).swap else order a b

def flag (name : String) (entries : List (Value × Value)) : Except Fault Bool :=
  match namedArg? name entries with
  | none => .ok false
  | some v => if v.isUndefined || v.isNone then .ok false else Taking.read Taking.asBool v

def attributeText? (entries : List (Value × Value)) : Except Fault (Option String) :=
  match namedArg? "attribute" entries with
  | none => .ok none
  | some v =>
    if v.isUndefined || v.isNone then .ok none
    else
      match v with
      | .str s _ => .ok (some s)
      | _ => reject

/-- Several paths of attributes, written with commas between them. -/
def pathList (s : String) : List (List String) :=
  (Value.splitAt ',' s.toList).map fun part =>
    Value.pathKeys (String.ofList (Text.trimBy Text.isBlank part))

/-- Compares by an attribute; values without it are equal to all others. -/
def orderByPath (caseSensitive : Bool) (keys : List String) (a b : Value) : Ordering :=
  match Value.path a keys, Value.path b keys with
  | .ok a, .ok b => sortOrder caseSensitive a b
  | _, _ => .eq

/-- Compares by several attributes, the first of which counts most. -/
def orderByPaths (caseSensitive : Bool) (paths : List (List String)) (a b : Value) : Ordering :=
  paths.foldl (fun o keys => o.then (orderByPath caseSensitive keys a b)) .eq

def sort (scope : FilterScope) : List Value → Except Fault Value :=
  Taking.apply do
    let v ← Taking.value
    let named ← Taking.named
    return do
      let items ← itemsOf scope v
      let caseSensitive ← flag "case_sensitive" named
      let order :=
        match ← attributeText? named with
        | some s => orderByPaths caseSensitive (pathList s)
        | none => sortOrder caseSensitive
      let reversed ← flag "reverse" named
      allowNamed ["case_sensitive", "attribute", "reverse"] named
      return .list (sortBy (directed reversed order) items)

def dictsort : List Value → Except Fault Value :=
  Taking.apply do
    let v ← Taking.value
    let named ← Taking.named
    return do
      match v.entries? with
      | none => reject
      | some entries =>
        let byValue ←
          match namedArg? "by" named with
          | some (.str s _) => pure (s == "value")
          | some v => if v.isUndefined || v.isNone then pure false else reject
          | none => pure false
        let caseSensitive ← flag "case_sensitive" named
        let part (e : Value × Value) : Value := if byValue then e.2 else e.1
        let order (a b : Value × Value) : Ordering := sortOrder caseSensitive (part a) (part b)
        let reversed ← flag "reverse" named
        allowNamed ["by", "case_sensitive", "reverse"] named
        return .list ((sortBy (directed reversed order) entries).map fun e => .list [e.1, e.2])

/-- The first of the values equal to each other, in order. -/
def distinctBy (key : Value → Value) (items : List Value) : List Value :=
  (items.foldl (fun (kept : List Value × List Value) v =>
    let k := key v
    if kept.2.any fun seen => Value.order seen k = .eq then kept
    else (v :: kept.1, k :: kept.2)) ([], [])).1.reverse

def unique (scope : FilterScope) : List Value → Except Fault Value :=
  Taking.apply do
    let v ← Taking.value
    let named ← Taking.named
    return do
      let caseSensitive ← flag "case_sensitive" named
      let keys := (← attributeText? named).map Value.pathKeys
      allowNamed ["case_sensitive", "attribute"] named
      let items ← scope.mode.iterate v
      let key (v : Value) : Value :=
        let v :=
          match keys with
          | some keys => (Value.path v keys).toOption.getD .missing
          | none => v
        match caseSensitive, v with
        | false, .str s safe => .str (Text.lower s) safe
        | _, v => v
      return .list (distinctBy key items)

/-- The least value by `order`, the first one if there are several. -/
def leastBy (order : Value → Value → Ordering) : List Value → Value
  | [] => .missing
  | v :: rest => rest.foldl (fun least v => if order v least = .lt then v else least) v

def min (scope : FilterScope) : List Value → Except Fault Value :=
  Taking.apply do
    let v ← Taking.value
    return (itemsOf scope v).map (leastBy Value.order)

def max (scope : FilterScope) : List Value → Except Fault Value :=
  Taking.apply do
    let v ← Taking.value
    return (itemsOf scope v).map fun items =>
      leastBy (fun a b => (Value.order a b).swap) items.reverse

def sum (scope : FilterScope) : List Value → Except Fault Value :=
  Taking.apply do
    let v ← Taking.value
    return do
      let items ← scope.mode.iterate v
      items.foldlM (fun total v =>
        match v with
        | .undefined _ => (scope.mode.require v).map fun _ => total
        | .int _ | .float _ => Value.add total v
        | _ => reject) (.int 0)

def reverse : List Value → Except Fault Value :=
  Taking.apply do
    let v ← Taking.value
    return match v with
      | .undefined _ | .none => .ok v
      | .str s _ => .ok (.text (String.ofList s.toList.reverse))
      | v =>
        match v.members? with
        | some items => .ok (.stream true items.reverse)
        | none => reject

def first : List Value → Except Fault Value :=
  Taking.apply do
    let v ← Taking.value
    return match v with
      | .str s _ => .ok ((s.toList.head?.map fun c => .text (String.singleton c)).getD .missing)
      | v =>
        match v.members? with
        | some items => .ok (items.head?.getD .missing)
        | none => reject

def last : List Value → Except Fault Value :=
  Taking.apply do
    let v ← Taking.value
    return match v with
      | .str s _ => .ok ((s.toList.getLast?.map fun c => .text (String.singleton c)).getD .missing)
      | .list items | .stream _ items => .ok (items.getLast?.getD .missing)
      | _ => reject

/-- The items as texts with a joiner between them.  Where output is escaped and a part is
safe, the result is safe and the other parts are escaped. -/
def join (scope : FilterScope) : List Value → Except Fault Value :=
  Taking.apply do
    let v ← Taking.value
    let joiner ← Taking.optional fun v => do
      discard (Taking.asText scope.mode v)
      return v
    let joiner := joiner.getD (.text "")
    return match v.items? with
      | none => reject
      | some items =>
        let safe := scope.escape ≠ .none && (joiner.isSafe || items.any Value.isSafe)
        let part (v : Value) : String := if safe then scope.escape.render v else v.display
        .ok (.str (String.intercalate (part joiner) (items.map part)) safe)

def replace (scope : FilterScope) : List Value → Except Fault Value :=
  Taking.apply do
    let s ← Taking.text scope.mode
    let old ← Taking.text scope.mode
    let new ← Taking.text scope.mode
    return .ok (.text (String.ofList (Text.replaceAll old.toList new.toList s.toList)))

def split (scope : FilterScope) : List Value → Except Fault Value :=
  Taking.apply do
    let s ← Taking.string scope.mode
    let sep ← Taking.optional (Taking.asString scope.mode)
    let most ← Taking.optional (Taking.asInt (Number.fitsSigned 64))
    let cuts := most.bind fun n => if 0 ≤ n then some n.toNat else none
    let pieces :=
      match sep with
      | some sep => Text.split sep.toList (cuts.map (· + 1)) s.toList
      | none => Text.words cuts s.toList
    return .ok (.stream false (pieces.map fun cs => .text (String.ofList cs)))

def trim (scope : FilterScope) : List Value → Except Fault Value :=
  Taking.apply do
    let v ← Taking.value
    let s ← Taking.asText scope.mode v
    let chars ← Taking.optional (Taking.asText scope.mode)
    let inSet : Char → Bool :=
      match chars with
      | some chars => chars.toList.contains
      | none => Text.isBlank
    return .ok (.str (String.ofList (Text.trimBy inSet s.toList)) v.isSafe)

/-- The value, or another one if it does not exist; on demand also if it counts as false. -/
def orDefault : List Value → Except Fault Value :=
  Taking.apply do
    let v ← Taking.value
    let other ← Taking.optional pure
    let alsoFalse ← Taking.optional pure
    return .ok (if v.isUndefined || (alsoFalse.any Value.isTrue && !v.isTrue) then
      other.getD (.text "") else v)

def abs : List Value → Except Fault Value :=
  Taking.apply do
    let v ← Taking.value
    return match v with
      | .int n => if 0 ≤ n then .ok v else Value.intResult (-n)
      | .float x => .ok (.float x.abs)
      | _ => reject

def toInt (scope : FilterScope) : List Value → Except Fault Value :=
  Taking.apply do
    let v ← Taking.needed scope.mode
    return match v with
      | .undefined _ | .none => .ok (.int 0)
      | .bool b => .ok (.int (Value.ofBool b))
      | .int n => .ok (.int n)
      | .float x => .ok (.int (Number.truncate x))
      | .str s _ =>
        match Number.readInt? 10 s.toList with
        | some n =>
          if Number.fitsSigned 128 n then .ok (.int n)
          else .ok (.int (Number.truncate (Number.floatOfInt n)))
        | none =>
          match Number.readFloat? s.toList with
          | some x => .ok (.int (Number.truncate x))
          | none => reject
      | _ => reject

def toFloat (scope : FilterScope) : List Value → Except Fault Value :=
  Taking.apply do
    let v ← Taking.needed scope.mode
    return match v with
      | .undefined _ | .none => .ok (.float 0)
      | .str s _ =>
        match Number.readFloat? s.toList with
        | some x => .ok (.float x)
        | none => reject
      | v =>
        match Value.operandFloat? v with
        | some x => .ok (.float x)
        | none => reject

/-- A power of ten, multiplied up by squaring; a negative one is the reciprocal of the
positive one. -/
def powerOfTen (n : Int) : Float :=
  let p := raise 33 n.natAbs 10 1
  if n < 0 then 1 / p else p
where
  raise : Nat → Nat → Float → Float → Float
    | 0, _, _, acc => acc
    | fuel + 1, n, base, acc =>
      let acc := if n % 2 = 1 then acc * base else acc
      if n / 2 = 0 then acc else raise fuel (n / 2) (base * base) acc

def round : List Value → Except Fault Value :=
  Taking.apply do
    let v ← Taking.value
    let places ← Taking.optional (Taking.asInt (Number.fitsSigned 32))
    return match v with
      | .int n => .ok (.int n)
      | .float x =>
        let scale := powerOfTen (places.getD 0)
        .ok (.float ((scale * x).round / scale))
      | _ => reject

def toList (scope : FilterScope) : List Value → Except Fault Value :=
  Taking.apply do
    let v ← Taking.value
    return (itemsOf scope v).map .list

def items : List Value → Except Fault Value :=
  Taking.apply do
    let v ← Taking.value
    return match v.entries? with
      | some entries => .ok (.stream true (entries.map fun e => .list [e.1, e.2]))
      | none => reject

def lines (scope : FilterScope) : List Value → Except Fault Value :=
  Taking.apply do
    let s ← Taking.text scope.mode
    let pieces := Value.splitAt '\n' s.toList
    let ended := pieces.dropLast.map fun cs => if cs.getLast? = some '\r' then cs.dropLast else cs
    let rest := pieces.getLast?.toList.filter (!·.isEmpty)
    return .ok (.list ((ended ++ rest).map fun cs => .text (String.ofList cs)))

def count (mode : UndefinedMode) : Taking Nat := do
  let n ← Taking.asInt (fun n => 0 ≤ n && Number.fitsSigned 65 n) (← Taking.needed mode)
  return n.toNat

/-- The items in bundles of a given size; the last one is filled up on demand. -/
def batch (scope : FilterScope) : List Value → Except Fault Value :=
  Taking.apply do
    let v ← Taking.value
    let size ← count scope.mode
    let fill ← Taking.optional pure
    return do
      if size = 0 then reject
      let items ← scope.mode.iterate v
      let bundle (i : Nat) : List Value :=
        let part := (items.drop (i * size)).take size
        part ++ (fill.map (List.replicate (size - part.length))).getD []
      return .list ((List.range ((items.length + size - 1) / size)).map (.list ∘ bundle))

/-- The items in a given number of bundles, the first of which hold one item more if they
cannot be of the same size; the others are filled up on demand. -/
def slice (scope : FilterScope) : List Value → Except Fault Value :=
  Taking.apply do
    let v ← Taking.value
    let number ← count scope.mode
    let fill ← Taking.optional pure
    return do
      if number = 0 then reject
      let items ← scope.mode.iterate v
      let size := items.length / number
      let longer := items.length % number
      let bundle (i : Nat) : List Value :=
        let start := i * size + Nat.min i longer
        let part := (items.drop start).take (if i < longer then size + 1 else size)
        if i < longer then part else part ++ fill.toList
      return .list ((List.range number).map (.list ∘ bundle))

def withoutLineEnd (cs : List Char) : List Char :=
  let cs := if cs.getLast? = some '\n' then cs.dropLast else cs
  if cs.getLast? = some '\r' then cs.dropLast else cs

/-- The text with its lines moved to the right, except for the first one and for blank ones
unless these are asked for. -/
def indent (scope : FilterScope) : List Value → Except Fault Value :=
  Taking.apply do
    let s ← Taking.text scope.mode
    let width ← count scope.mode
    let first := (← Taking.optional Taking.asBool).getD false
    let blank := (← Taking.optional Taking.asBool).getD false
    let moved (cs : List Char) : List Char :=
      if cs.isEmpty && !blank then [] else List.replicate width ' ' ++ cs
    let text :=
      match Value.splitAt '\n' (withoutLineEnd s.toList) with
      | line :: rest => (if first then moved line else line) ++ rest.flatMap ('\n' :: moved ·)
      | [] => []
    return .ok (.text (String.ofList (withoutLineEnd (text ++ ['\n']))))

def length : List Value → Except Fault Value :=
  Taking.apply do
    let v ← Taking.value
    return match v.length? with
      | some n => .ok (.int n)
      | none => reject

/-- The value with the characters escaped that mean something in markup. -/
def escape (scope : FilterScope) : List Value → Except Fault Value :=
  Taking.apply do
    let v ← Taking.value
    return match v with
      | .str s true => .ok (.str s true)
      | v =>
        let escape : Escape :=
          match scope.escape, scope.outer with
          | .none, .none => .html
          | .none, outer => outer
          | escape, _ => escape
        .ok (.str (escape.render v) true)

/-- The items that pass a test, or those that do not; by the value of an attribute if one is
named. -/
def select (scope : FilterScope) (wanted byAttribute : Bool) :
    List Value → Except Fault Value :=
  Taking.apply do
    let v ← Taking.value
    let keys ← if byAttribute then (some ∘ Value.pathKeys) <$> Taking.text scope.mode
      else pure none
    let test ← Taking.optional (Taking.asText scope.mode)
    let args ← Taking.rest
    return do
      let passes : Value → Except Fault Bool ←
        match test with
        | none => pure fun v => .ok v.isTrue
        | some name =>
          match Test.ofName? scope.mode name with
          | some test => pure fun v => test (v :: args)
          | none => throw { kind := .unknownTest }
      let items ← scope.mode.iterate v
      let kept ← items.filterM fun item => do
        let subject ←
          match keys with
          | some keys => Value.path item keys
          | none => pure item
        return (← passes subject) == wanted
      return .list kept

def mapAttribute (scope : FilterScope) (v attr : Value) (named : List (Value × Value)) :
    Except Fault Value := do
  let other := (namedArg? "default" named).getD .missing
  let items ← scope.mode.iterate v
  let values ← items.mapM fun item =>
    let part :=
      match attr with
      | .str s _ => Value.path item (Value.pathKeys s)
      | key =>
        if item.isUndefined then .error { kind := .undefinedValue }
        else .ok ((Value.item? item key).getD .missing)
    match part with
    | .ok v => .ok (if v.isUndefined then other else v)
    | .error fault => if other.isUndefined then .error fault else .ok other
  allowNamed ["attribute", "default"] named
  return .list values

def plain? (scope : FilterScope) : String → Option (List Value → Except Fault Value)
  | "safe" => some <| Taking.apply do
      let s ← Taking.text scope.mode
      return .ok (.str s true)
  | "escape" | "e" => some (escape scope)
  | "lower" => some (mapText scope Text.lower)
  | "upper" => some (mapText scope Text.upper)
  | "title" => some (mapText scope Text.title)
  | "capitalize" => some (mapText scope Text.capitalize)
  | "replace" => some (replace scope)
  | "length" | "count" => some length
  | "dictsort" => some dictsort
  | "items" => some items
  | "reverse" => some reverse
  | "trim" => some (trim scope)
  | "join" => some (join scope)
  | "split" => some (split scope)
  | "default" | "d" => some orDefault
  | "round" => some round
  | "abs" => some abs
  | "int" => some (toInt scope)
  | "float" => some (toFloat scope)
  | "first" => some first
  | "last" => some last
  | "min" => some (min scope)
  | "max" => some (max scope)
  | "sort" => some (sort scope)
  | "list" => some (toList scope)
  | "string" => some <| Taking.apply do
      let v ← Taking.needed scope.mode
      return .ok (match v with
        | .str s safe => .str s safe
        | v => .text v.display)
  | "bool" => some <| Taking.apply do
      let v ← Taking.needed scope.mode
      return .ok (.bool v.isTrue)
  | "sum" => some (sum scope)
  | "unique" => some (unique scope)
  | "select" => some (select scope true false)
  | "reject" => some (select scope false false)
  | "selectattr" => some (select scope true true)
  | "rejectattr" => some (select scope false true)
  | "lines" => some (lines scope)
  | "batch" => some (batch scope)
  | "slice" => some (slice scope)
  | "indent" => some (indent scope)
  | "attr" => some <| Taking.apply do
      let v ← Taking.value
      let key ← Taking.value
      return if v.isUndefined then .error { kind := .undefinedValue }
        else .ok ((Value.item? v key).getD .missing)
  | _ => none

/-- Applies a filter to its arguments, the subject first.  The filter `map` applies another
one with one argument less, so that the number of arguments is fuel enough. -/
def applyWithin (scope : FilterScope) : Nat → String → List Value → Except Fault Value
  | 0, _, _ => .error { kind := .unknownFilter }
  | fuel + 1, name, args =>
    if name = "map" then
      match args with
      | [] => .error { kind := .missingArgument }
      | subject :: rest =>
        let (rest, named) :=
          match rest.getLast? with
          | some (.named entries) => (rest.dropLast, entries)
          | _ => (rest, [])
        match (namedArg? "attribute" named).filter fun v => !(v.isUndefined || v.isNone) with
        | some attr =>
          if rest.isEmpty then mapAttribute scope subject attr named
          else .error { kind := .tooManyArguments }
        | none =>
          match rest with
          | .str filter _ :: more => do
            if filter ≠ "map" && (plain? scope filter).isNone then
              throw { kind := .unknownFilter }
            let items ← scope.mode.iterate subject
            .list <$> items.mapM fun item => applyWithin scope fuel filter (item :: more)
          | _ => reject
    else
      match plain? scope name with
      | some filter => filter args
      | none => .error { kind := .unknownFilter }

/-- Applies the filter of the given name to its arguments, the subject first. -/
def apply (scope : FilterScope) (name : String) (args : List Value) : Except Fault Value :=
  applyWithin scope (args.length + 1) name args

end Filter

end Folio.Template
