/-
Options read from YAML.

A document of options is a mapping.  Each of its keys names a setting, no setting is named
twice, and null, or nothing, as a value leaves the setting alone.  A document without
content sets nothing.  What is wrong is looked for entry by entry: first the key, then the
value.
-/
import Folio.Config
import Folio.FileTree
import Folio.Text.Quoted
import Folio.Yaml.Node

namespace Folio

open Yaml (Node Scalar Content Document)

/-- What is wrong with options. -/
inductive OptionsFault where
  /-- The text is not one YAML document. -/
  | unreadable
  /-- A node is not what is expected; scalars are described by what they mean. -/
  | wrongType (found expected : String)
  /-- The text of a scalar does not fit its tag, or where it stands. -/
  | wrongValue (text expected : String)
  | unknownSetting (name : String)
  | repeatedSetting (name : String)
  | unknownChoice (name : String) (choices : List String)
  deriving DecidableEq, Inhabited, Repr

/-- Why options cannot be read: what is wrong, and the setting whose value it is. -/
structure OptionsError where
  fault : OptionsFault
  setting : Option String := none
  deriving DecidableEq, Inhabited, Repr

def Options.settings : List String :=
  ["fragments_root", "pages_root", "cache_enabled", "extension", "undefined", "collisions"]

namespace OptionsFault

def describe : Content → String
  | .null => "unit value"
  | .bool b => "boolean `" ++ (if b then "true" else "false") ++ "`"
  | .int n =>
    let wide :=
      if Number.fitsUnsigned 64 n || Number.fitsSigned 64 n then ""
      else if n < 0 then " as i128"
      else " as u128"
    "integer `" ++ Number.intText n ++ "`" ++ wide
  | .float x => "floating point `" ++ Number.floatText x ++ "`"
  | .str s => "string " ++ Text.quoted s

def mismatch (expected : String) : Node → OptionsFault
  | .scalar s _ =>
    match s.content with
    | .ok content => .wrongType (describe content) expected
    | .error fitting => .wrongValue s.text fitting
  | .sequence .. => .wrongType "sequence" expected
  | .mapping .. => .wrongType "map" expected
  | .alias _ | .unreadable => .unreadable

def listing (choices : List String) : String :=
  let quoted := choices.map fun c => "`" ++ c ++ "`"
  match quoted with
  | [a, b] => "expected " ++ a ++ " or " ++ b
  | _ => "expected one of " ++ String.intercalate ", " quoted

/-- The message of a fault, if it is not about the text as YAML. -/
def message? : OptionsFault → Option String
  | .unreadable => none
  | .wrongType found expected => some ("invalid type: " ++ found ++ ", expected " ++ expected)
  | .wrongValue text expected =>
    some ("invalid value: string " ++ Text.quoted text ++ ", expected " ++ expected)
  | .unknownSetting name =>
    some ("unknown field `" ++ name ++ "`, " ++ listing Options.settings)
  | .repeatedSetting name => some ("duplicate field `" ++ name ++ "`")
  | .unknownChoice name choices => some ("unknown variant `" ++ name ++ "`, " ++ listing choices)

end OptionsFault

/-- The message of an error, if it is not about the text as YAML. -/
def OptionsError.message? (e : OptionsError) : Option String :=
  e.fault.message?.map fun m =>
    match e.setting with
    | some name => name ++ ": " ++ m
    | none => m

namespace Options

/-! ### Values -/

/-- A value, or what is wrong with it. -/
abbrev Value (α : Type) := Except OptionsError α

def textValue (expected setting : String) : Node → Value String
  | .scalar s _ => .ok s.text
  | node => .error ⟨.mismatch expected node, setting⟩

/-- A boolean, which is a plain scalar or, if its tag says so, a literal one. -/
def boolValue (setting : String) (node : Node) : Value Bool :=
  let read? : Option Bool :=
    match node with
    | .scalar s _ =>
      if s.style = .plain || (s.style = .literal && s.tag = some .bool) then
        Yaml.boolOfText? s.text
      else none
    | _ => none
  match read? with
  | some b => .ok b
  | none => .error ⟨.mismatch "a boolean" node, setting⟩

/-- The choice that the tag of a node makes: what follows its exclamation mark, or the mark
itself if nothing does. -/
def choiceTag? (tag : Option Yaml.Tag) : Option String := do
  let text ← (← tag).text?
  if text = "!" then some text
  else if text.startsWith "!" then some (text.drop 1).toString
  else none

/-- A node that makes a choice by its tag has to be null apart from that. -/
def nothingBeside (setting : String) : Node → Value Unit
  | .scalar s _ =>
    if s.style = .plain && (s.text.isEmpty || Yaml.isNullText s.text) then .ok ()
    else .error ⟨.wrongValue s.text "null", setting⟩
  | node => .error ⟨.mismatch "unit" node, setting⟩

/-- One of several choices, made by the text of a scalar or by a tag. -/
def choiceValue {α : Type} (ofName? : String → Option α) (choices : List String)
    (setting : String) (node : Node) : Value α :=
  let choose (place : Option String) (name : String) : Value α :=
    match ofName? name with
    | some choice => .ok choice
    | none => .error ⟨.unknownChoice name choices, place⟩
  let tag :=
    match node with
    | .scalar s _ => s.tag
    | .sequence _ tag _ | .mapping _ tag _ => tag
    | _ => none
  match choiceTag? tag with
  | some name => do
    let choice ← choose none name
    nothingBeside setting node
    return choice
  | none =>
    match node with
    | .scalar s _ => choose setting s.text
    | node => .error ⟨.mismatch "a YAML tag starting with '!'" node, setting⟩

def optional {α : Type} (read : Node → Value α) (node : Node) : Value (Option α) :=
  match node with
  | .scalar s _ =>
    if s.style ≠ .plain then some <$> read node
    else if s.tag = some .null then
      if Yaml.isNullText s.text then .ok none else .error ⟨.wrongValue s.text "null", none⟩
    else if s.tag.isNone && (s.text.isEmpty || Yaml.isNullText s.text) then .ok none
    else some <$> read node
  | _ => some <$> read node

/-! ### Entries -/

/-- The names of the modes for undefined values, in the order of messages. -/
def undefinedNames : List String := ["lenient", "chainable", "strict"]

/-- The names of the policies for collisions, in the order of messages. -/
def collisionNames : List String := ["overwrite", "reject"]

/-- Reads the value of one setting; errors in it are put down to `place`. -/
def readSetting (name place : String) (node : Node) (o : Options) : Value Options :=
  match name with
  | "fragments_root" =>
    return { o with fragmentsRoot := (← optional (textValue "path string" place) node).map .mk }
  | "pages_root" =>
    return { o with pagesRoot := (← optional (textValue "path string" place) node).map .mk }
  | "cache_enabled" => return { o with cacheEnabled := ← optional (boolValue place) node }
  | "extension" => return { o with extension := ← optional (textValue "a string" place) node }
  | "undefined" =>
    return { o with
      undefined := ← optional (choiceValue UndefinedMode.ofName? undefinedNames place) node }
  | "collisions" =>
    return { o with
      collisions := ← optional (choiceValue CollisionPolicy.ofName? collisionNames place) node }
  | _ => .error ⟨.unknownSetting name, none⟩

/-- Reads entries one after the other.  `seen` are the settings named so far. -/
def readEntries (d : Document) : List String → List (Node × Node) → Options → Value Options
  | _, [], o => .ok o
  | seen, (key, value) :: rest, o =>
    match d.resolve key with
    | .scalar s _ =>
      let name := s.text
      if !settings.contains name then .error ⟨.unknownSetting name, none⟩
      else if seen.contains name then .error ⟨.repeatedSetting name, none⟩
      else do
        let place :=
          match key with
          | .alias _ => "?"
          | _ => name
        let o ← readSetting name place (d.resolve value) o
        readEntries d (name :: seen) rest o
    | node => .error ⟨.mismatch "field identifier" node, none⟩

def ofDocument (d : Document) : Value Options := do
  let o ←
    match d.root with
    | none => pure {}
    | some (.mapping entries _ _) => readEntries d [] entries {}
    | some node =>
      match node with
      | .scalar s _ =>
        if s.style = .plain && s.text.isEmpty then pure {}
        else .error ⟨.mismatch "struct RenderOptions" node, none⟩
      | _ => .error ⟨.mismatch "struct RenderOptions" node, none⟩
  if d.complete then return o else .error ⟨.unreadable, none⟩

/-- Options from a YAML text. -/
def ofYaml (text : String) : Value Options :=
  ofDocument (.ofText text)

end Options

/-! ### Files -/

/-- Why a configuration cannot be read. -/
inductive ConfigError where
  /-- The file cannot be read. -/
  | read (path : Path) (cause : IoError)
  | parse (e : OptionsError)
  deriving DecidableEq, Inhabited, Repr

namespace ConfigError

/-- The message of an error, if it is not about the text as YAML. -/
def message? : ConfigError → Option String
  | .read path cause =>
    some ("failed to read options file " ++ path.text ++ ": " ++ cause.text)
  | .parse e => e.message?.map ("invalid options: " ++ ·)

def source? : ConfigError → Option String
  | .read _ cause => some cause.text
  | .parse e => e.message?

end ConfigError

def Options.ofYamlFile (files : FileTree) (path : Path) : Except ConfigError Options :=
  match files.readText path with
  | .error fault => .error (.read path { fault })
  | .ok text => (Options.ofYaml text).mapError .parse

end Folio
