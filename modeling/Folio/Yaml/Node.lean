/-
YAML documents.

A node is a scalar, a sequence or a mapping, or it refers to one of them.  A document is
read as far as its tokens go: where they stop making sense, or stop at all, the node that
should follow is unreadable, and so is the rest of everything that has begun.  What was
read before stays, since a reader of the document may find something wrong there first.

Anchors are numbered by how many names of anchors the document uses so far, and an alias
refers to the last node that has the number.
-/
import Folio.Yaml.Token

namespace Folio.Yaml

/-- A node of a document. -/
inductive Node where
  | scalar (s : Scalar) (anchor : Option Nat)
  | sequence (items : List Node) (tag : Option Tag) (anchor : Option Nat)
  | mapping (entries : List (Node × Node)) (tag : Option Tag) (anchor : Option Nat)
  | alias (anchor : Nat)
  | unreadable
  deriving Inhabited

def Node.empty : Node := .scalar { text := "" } none

mutual

/-- The nodes at which an anchor stands, in the order of the text. -/
def Node.anchored : Node → List (Nat × Node)
  | .scalar s (some a) => [(a, .scalar s (some a))]
  | .sequence items tag anchor =>
    (anchor.map fun a => (a, .sequence items tag anchor)).toList ++ anchoredItems items
  | .mapping entries tag anchor =>
    (anchor.map fun a => (a, .mapping entries tag anchor)).toList ++ anchoredEntries entries
  | _ => []

/-- The nodes of a sequence at which an anchor stands. -/
def anchoredItems : List Node → List (Nat × Node)
  | [] => []
  | item :: rest => item.anchored ++ anchoredItems rest

/-- The nodes of a mapping at which an anchor stands. -/
def anchoredEntries : List (Node × Node) → List (Nat × Node)
  | [] => []
  | (key, value) :: rest => key.anchored ++ value.anchored ++ anchoredEntries rest

end

/-- A document, and what follows it. -/
structure Document where
  /-- The node that the document consists of, if there is a document. -/
  root : Option Node
  /-- Whether the text is readable to its end and holds no other document. -/
  complete : Bool
  deriving Inhabited

namespace Document

/-- The node that another one stands for: itself, or what it refers to. -/
def resolve (d : Document) : Node → Node
  | .alias a =>
    match ((d.root.getD .unreadable).anchored.filter (·.1 = a)).getLast? with
    | some (_, node) => node
    | none => .unreadable
  | node => node

end Document

/-! ### Documents from tokens -/

/-- Tokens of which a document is being read. -/
structure NodeReader where
  tokens : List Token
  /-- The numbers of the anchors that have been named. -/
  anchors : List (String × Nat) := []
  /-- What the handles of tags stand for. -/
  handles : List (String × Tag) := []

/-- A step of reading a document. -/
abbrev Step := StateM NodeReader

namespace Step

def peek : Step (Option Token) := return (← get).tokens.head?

def skip : Step Unit := modify fun r => { r with tokens := r.tokens.tail }

def isAt (ts : List Token) : Step Bool := return (← peek).any (ts.contains ·)

def stop : Step Node := do
  modify fun r => { r with tokens := [] }
  return .unreadable

/-- What stands in front of a node. -/
structure Properties where
  anchor : Option String := none
  tag : Option TagName := none

/-- The anchor and the tag in front of a node, in any order. -/
def properties : Step Properties := do
  match ← peek with
  | some (.anchor name) =>
    skip
    match ← peek with
    | some (.tag tag) =>
      skip
      return { anchor := some name, tag := some tag }
    | _ => return { anchor := some name }
  | some (.tag tag) =>
    skip
    match ← peek with
    | some (.anchor name) =>
      skip
      return { anchor := some name, tag := some tag }
    | _ => return { tag := some tag }
  | _ => return {}

def number (name : String) : Step Nat := do
  let r ← get
  let n := r.anchors.length
  set { r with anchors := (name, n) :: r.anchors.filter (·.1 ≠ name) }
  return n

def expand (handles : List (String × Tag)) (name : TagName) : Option Tag :=
  if name.handle.isEmpty then some name.suffix
  else (handles.lookup name.handle).map fun start => ⟨start.bytes ++ name.suffix.bytes⟩

mutual

/-- A node.  `block` says whether it may be a block, and `flush` whether a sequence may
begin that is not indented by more than the mapping around it. -/
def node (block flush : Bool) : Nat → Step Node
  | 0 => stop
  | fuel + 1 => do
    if let some (.alias name) ← peek then
      skip
      match (← get).anchors.lookup name with
      | some n => return .alias n
      | none => stop
    else
      let p ← properties
      let tag? := p.tag.map (expand (← get).handles)
      if tag? = some none then stop
      else
        let tag := tag?.join
        let anchor : Step (Option Nat) := p.anchor.mapM number
        match ← peek with
        | some .blockEntry =>
          if flush then
            let a ← anchor
            return .sequence (← flushItems fuel) tag a
          else rest p tag
        | some (.scalar text style) =>
          skip
          return .scalar { text, style, tag } (← anchor)
        | some .flowSequenceStart =>
          skip
          let a ← anchor
          return .sequence (← flowItems true fuel) tag a
        | some .flowMappingStart =>
          skip
          let a ← anchor
          return .mapping (← flowEntries true fuel) tag a
        | some .blockSequenceStart =>
          if block then
            skip
            let a ← anchor
            return .sequence (← blockItems fuel) tag a
          else rest p tag
        | some .blockMappingStart =>
          if block then
            skip
            let a ← anchor
            return .mapping (← blockEntries fuel) tag a
          else rest p tag
        | some _ => rest p tag
        | none => stop
where
  /-- A node of which there is nothing but its properties. -/
  rest (p : Properties) (tag : Option Tag) : Step Node := do
    if p.anchor.isSome || tag.isSome then
      return .scalar { text := "", tag } (← p.anchor.mapM number)
    else stop

/-- The node here, or an empty one in front of one of the tokens `ends`. -/
def nodeOrEmpty (block flush : Bool) (ends : List Token) : Nat → Step Node
  | 0 => stop
  | fuel + 1 => do if ← isAt ends then return .empty else node block flush fuel

def valueOrEmpty (block flush : Bool) (ends : List Token) : Nat → Step Node
  | 0 => stop
  | fuel + 1 => do
    match ← peek with
    | none => stop
    | some .value =>
      skip
      nodeOrEmpty block flush ends fuel
    | some _ => return .empty

def blockItems : Nat → Step (List Node)
  | 0 => return [← stop]
  | fuel + 1 => do
    match ← peek with
    | some .blockEntry =>
      skip
      let item ← nodeOrEmpty true false [.blockEntry, .blockEnd] fuel
      return item :: (← blockItems fuel)
    | some .blockEnd =>
      skip
      return []
    | _ => return [← stop]

/-- The items of a sequence that is not indented by more than the mapping around it. -/
def flushItems : Nat → Step (List Node)
  | 0 => return [← stop]
  | fuel + 1 => do
    match ← peek with
    | some .blockEntry =>
      skip
      let item ← nodeOrEmpty true false [.blockEntry, .key, .value, .blockEnd] fuel
      return item :: (← flushItems fuel)
    | some _ => return []
    | none => return [← stop]

def blockEntries : Nat → Step (List (Node × Node))
  | 0 => return [(← stop, .unreadable)]
  | fuel + 1 => do
    let ends := [.key, .value, .blockEnd]
    match ← peek with
    | some .key =>
      skip
      let key ← nodeOrEmpty true true ends fuel
      let value ← valueOrEmpty true true ends fuel
      return (key, value) :: (← blockEntries fuel)
    | some .blockEnd =>
      skip
      return []
    | _ => return [(← stop, .unreadable)]

/-- The items between brackets; a single entry of a mapping may be one of them. -/
def flowItems (first : Bool) : Nat → Step (List Node)
  | 0 => return [← stop]
  | fuel + 1 => do
    let ends := [.flowEntry, .flowSequenceEnd]
    if ← isAt [.flowSequenceEnd] then
      skip
      return []
    else if !first && !(← isAt [.flowEntry]) then return [← stop]
    else
      if !first then skip
      match ← peek with
      | some .flowSequenceEnd =>
        skip
        return []
      | some .key =>
        skip
        let key ← nodeOrEmpty false false (.value :: ends) fuel
        let value ← valueOrEmpty false false ends fuel
        return .mapping [(key, value)] none none :: (← flowItems false fuel)
      | _ =>
        let item ← node false false fuel
        return item :: (← flowItems false fuel)

/-- The entries between braces; one without a colon has an empty value. -/
def flowEntries (first : Bool) : Nat → Step (List (Node × Node))
  | 0 => return [(← stop, .unreadable)]
  | fuel + 1 => do
    let ends := [.flowEntry, .flowMappingEnd]
    if ← isAt [.flowMappingEnd] then
      skip
      return []
    else if !first && !(← isAt [.flowEntry]) then return [(← stop, .unreadable)]
    else
      if !first then skip
      match ← peek with
      | some .flowMappingEnd =>
        skip
        return []
      | some .key =>
        skip
        let key ← nodeOrEmpty false false (.value :: ends) fuel
        let value ← valueOrEmpty false false ends fuel
        return (key, value) :: (← flowEntries false fuel)
      | _ =>
        let key ← node false false fuel
        let value ← if (← peek).isSome then pure .empty else stop
        return (key, value) :: (← flowEntries false fuel)

end

def standardHandles : List (String × Tag) := [("!", .ofText "!"), ("!!", .ofText standardTags)]

/-- The directives in front of a document: the handles they name, and whether there was one
about the version. -/
def directives : Nat → List (String × Tag) → Bool → Step (Option (List (String × Tag)))
  | 0, _, _ => return none
  | fuel + 1, handles, versioned => do
    match ← peek with
    | some (.directive d) =>
      skip
      match d with
      | .version major minor =>
        if versioned || major ≠ 1 || (minor ≠ 1 && minor ≠ 2) then return none
        else directives fuel handles true
      | .tag handle text =>
        if (handles.lookup handle).isSome then return none
        else directives fuel (handles ++ [(handle, text)]) versioned
    | _ => return some handles

/-- The document at the start of a text. -/
def document (fuel : Nat) : Step Document := do
  match ← peek with
  | none => return { root := some .unreadable, complete := false }
  | some .streamEnd => return { root := none, complete := true }
  | some t =>
    let starts := t matches .directive _ || t = .documentStart
    let root ← if starts then explicit else implicit
    modify fun r => { r with tokens := r.tokens.dropWhile (· = .documentEnd) }
    return { root := some root, complete := ← isAt [.streamEnd] }
where
  /-- A document that begins with its content. -/
  implicit : Step Node := do
    modify fun r => { r with handles := standardHandles }
    node true false fuel
  /-- A document behind directives and a line that begins it. -/
  explicit : Step Node := do
    match ← directives fuel [] false with
    | none => stop
    | some handles =>
      if ← isAt [.documentStart] then
        skip
        modify fun r => { r with handles := handles ++ standardHandles }
        match ← peek with
        | none => stop
        | some (.directive _) | some .documentStart | some .documentEnd | some .streamEnd =>
          return .empty
        | some _ => node true false fuel
      else stop

end Step

/-- The document that a text begins with.  No call of the reader leads to more than four
others before a token is read. -/
def Document.ofText (text : String) : Document :=
  let ts := tokens text
  (Step.document (4 * ts.length + 8)).run { tokens := ts } |>.run.1

end Folio.Yaml
