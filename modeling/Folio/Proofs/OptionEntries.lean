/-
Options are read from a mapping entry by entry, and from each entry by itself.

A mapping is accepted if and only if every key names a setting, no key comes twice, and every value
can be read as a value of its setting or is null; what the options are then can be said of each
entry by itself (`Describes`), in no order.  The reader goes through the entries one after the other
and remembers the keys it has seen.  One entry that is accepted changes one setting
(`readEntries_cons`), and since its key does not come again, that setting stays as it is; the
induction over the entries carries this along with the keys seen (`readEntries_eq_ok`).
-/
import Folio.Config.Reader
import Folio.Proofs.Fallible
import Folio.Proofs.Settings

namespace Folio

open Yaml (Node Document)

/-! ### Values of settings -/

/-- The name of a setting in a document. -/
def Setting.name : Setting → String
  | fragmentsRoot => "fragments_root"
  | pagesRoot => "pages_root"
  | cacheEnabled => "cache_enabled"
  | extension => "extension"
  | undefined => "undefined"
  | collisions => "collisions"

/-- Reads a node as a value of a setting that may be null. -/
def Setting.read (s : Setting) (place : String) (node : Node) :
    Except OptionsError (Option s.Value) :=
  match s with
  | fragmentsRoot =>
    (Options.optional (Options.textValue "path string" place) node).map (Option.map Path.mk)
  | pagesRoot =>
    (Options.optional (Options.textValue "path string" place) node).map (Option.map Path.mk)
  | cacheEnabled => Options.optional (Options.boolValue place) node
  | extension => Options.optional (Options.textValue "a string" place) node
  | undefined =>
    Options.optional (Options.choiceValue UndefinedMode.ofName? Options.undefinedNames place) node
  | collisions =>
    Options.optional (Options.choiceValue CollisionPolicy.ofName? Options.collisionNames place) node

/-- Gives a setting a value, or none. -/
def Options.put (o : Options) : (s : Setting) → Option s.Value → Options
  | .fragmentsRoot, root => { o with fragmentsRoot := root }
  | .pagesRoot, root => { o with pagesRoot := root }
  | .cacheEnabled, enabled => { o with cacheEnabled := enabled }
  | .extension, extension => { o with extension := extension }
  | .undefined, mode => { o with undefined := mode }
  | .collisions, policy => { o with collisions := policy }

section Values

variable {s s' : Setting} {place place' : String} {node : Node} {o o' : Options}

theorem Setting.name_injective (h : s.name = s'.name) : s = s' := by
  cases s <;> cases s' <;> first | rfl | exact absurd h (by decide)

theorem Setting.mem_settings {key : String} :
    key ∈ Options.settings ↔ ∃ s : Setting, key = s.name := by
  constructor
  · intro h
    simp only [Options.settings, List.mem_cons, List.not_mem_nil, or_false] at h
    rcases h with rfl | rfl | rfl | rfl | rfl | rfl
    · exact ⟨.fragmentsRoot, rfl⟩
    · exact ⟨.pagesRoot, rfl⟩
    · exact ⟨.cacheEnabled, rfl⟩
    · exact ⟨.extension, rfl⟩
    · exact ⟨.undefined, rfl⟩
    · exact ⟨.collisions, rfl⟩
  · rintro ⟨s, rfl⟩
    cases s <;> decide

/-- The reader of entries reads the value of the setting and puts it in place. -/
theorem Options.readSetting_eq :
    readSetting s.name place node o = (s.read place node).map (o.put s) := by
  cases s with
  | fragmentsRoot | pagesRoot =>
      simp only [readSetting, Setting.name, Setting.read]
      cases optional (textValue "path string" place) node <;> rfl
  | cacheEnabled | extension | undefined | collisions =>
      simp only [readSetting, Setting.name]
      exact bind_return

/-! ### Where a value stands matters for errors only -/

theorem textValue_place {expected : String} :
    (Options.textValue expected place node).toOption =
      (Options.textValue expected place' node).toOption := by
  cases node <;> rfl

theorem boolValue_place :
    (Options.boolValue place node).toOption = (Options.boolValue place' node).toOption := by
  unfold Options.boolValue
  dsimp only
  split <;> rfl

theorem nothingBeside_place :
    (Options.nothingBeside place node).toOption = (Options.nothingBeside place' node).toOption := by
  unfold Options.nothingBeside
  split
  · split <;> rfl
  · rfl

theorem choiceValue_place {α : Type} {ofName? : String → Option α} {choices : List String} :
    (Options.choiceValue ofName? choices place node).toOption =
      (Options.choiceValue ofName? choices place' node).toOption := by
  have hnothing := @nothingBeside_place place place' node
  unfold Options.choiceValue
  dsimp only
  split
  · rw [toOption_bind, toOption_bind]
    simp only [toOption_bind, hnothing]
  · split
    · split <;> rfl
    · rfl

theorem optional_place {α : Type} {read read' : Node → Options.Value α}
    (h : (read node).toOption = (read' node).toOption) :
    (Options.optional read node).toOption = (Options.optional read' node).toOption := by
  have hmap : (some <$> read node).toOption = (some <$> read' node).toOption := by
    show ((read node).map some).toOption = ((read' node).map some).toOption
    rw [toOption_map, toOption_map, h]
  unfold Options.optional
  split
  · split
    · exact hmap
    · split
      · rfl
      · split
        · rfl
        · exact hmap
  · exact hmap

/-- What a node says of a setting: nothing if it is null, and no answer if it cannot be read as a
value of the setting. -/
def Setting.decode? (s : Setting) (node : Node) : Option (Option s.Value) :=
  (s.read s.name node).toOption

theorem Setting.read_eq_ok {value : Option s.Value} :
    s.read place node = .ok value ↔ s.decode? node = some value := by
  have hplace : (s.read place node).toOption = (s.read s.name node).toOption := by
    cases s with
    | fragmentsRoot | pagesRoot =>
        show (Except.map _ _).toOption = (Except.map _ _).toOption
        rw [toOption_map, toOption_map, optional_place textValue_place]
    | cacheEnabled => exact optional_place boolValue_place
    | extension => exact optional_place textValue_place
    | undefined => exact optional_place choiceValue_place
    | collisions => exact optional_place choiceValue_place
  rw [decode?, ← hplace, toOption_eq_some]

end Values

/-! ### Null -/

/-- The node is null: plain, and with nothing or a word for null as its text, or tagged as null with
a word for it. -/
def Yaml.Node.isNull : Node → Bool
  | .scalar s _ =>
    s.style = .plain &&
      if s.tag = some .null then Yaml.isNullText s.text
      else s.tag.isNone && (s.text.isEmpty || Yaml.isNullText s.text)
  | _ => false

section Null

variable {s : Setting} {place : String} {node : Node}

theorem optional_eq_none {α : Type} {read : Node → Options.Value α} :
    Options.optional read node = .ok none ↔ node.isNull = true := by
  have hsome : (some <$> read node) ≠ .ok none := by
    show (read node).map some ≠ .ok none
    cases read node <;> simp [Except.map]
  cases node with
  | scalar s anchor =>
      simp only [Options.optional, Yaml.Node.isNull]
      split
      · simp_all
      · split
        · split <;> simp_all
        · split <;> simp_all
  | _ => simpa [Options.optional, Yaml.Node.isNull] using hsome

theorem Setting.decode?_eq_none : s.decode? node = some none ↔ node.isNull = true := by
  have hpath : ∀ {x : Options.Value (Option String)},
      x.map (Option.map Path.mk) = .ok none ↔ x = .ok none := by
    intro x
    rw [map_eq_ok]
    simp
  rw [decode?, toOption_eq_some]
  cases s with
  | fragmentsRoot | pagesRoot => exact hpath.trans optional_eq_none
  | cacheEnabled => exact optional_eq_none
  | extension => exact optional_eq_none
  | undefined => exact optional_eq_none
  | collisions => exact optional_eq_none

end Null

/-! ### Options, setting by setting -/

namespace Options

variable {s s' : Setting} {o o' : Options}

@[simp] theorem value?_put_self {value : Option s.Value} : (o.put s value).value? s = value := by
  cases s <;> rfl

theorem value?_put_of_ne {value : Option s.Value} (h : s' ≠ s) :
    (o.put s value).value? s' = o.value? s' := by
  cases s <;> cases s' <;> first | rfl | exact absurd rfl h

@[simp] theorem functions_put {value : Option s.Value} :
    (o.put s value).functions = o.functions := by
  cases s <;> rfl

@[simp] theorem value?_empty : value? {} s = none := by
  cases s <;> rfl

theorem ext_value (hvalue : ∀ s, o.value? s = o'.value? s)
    (hfunctions : o.functions = o'.functions) : o = o' := by
  obtain ⟨fragmentsRoot, pagesRoot, cacheEnabled, extension, undefined, collisions, functions⟩ := o
  obtain ⟨fragmentsRoot', pagesRoot', cacheEnabled', extension', undefined', collisions',
    functions'⟩ := o'
  cases show fragmentsRoot = fragmentsRoot' from hvalue .fragmentsRoot
  cases show pagesRoot = pagesRoot' from hvalue .pagesRoot
  cases show cacheEnabled = cacheEnabled' from hvalue .cacheEnabled
  cases show extension = extension' from hvalue .extension
  cases show undefined = undefined' from hvalue .undefined
  cases show collisions = collisions' from hvalue .collisions
  cases hfunctions
  rfl

end Options

/-! ### Entries -/

/-- The text of a node, if it is a scalar. -/
def Yaml.Node.text? : Node → Option String
  | .scalar s _ => some s.text
  | _ => none

/-- The texts of the keys of entries, and the values, with references followed. -/
def Yaml.Document.named (d : Document) (entries : List (Node × Node)) :
    List (Option String × Node) :=
  entries.map fun e => ((d.resolve e.1).text?, d.resolve e.2)

/-- The options `o'` are what the entries say, and otherwise as `o`. -/
structure Describes (entries : List (Option String × Node)) (o o' : Options) : Prop where
  entry : ∀ e ∈ entries, ∃ s : Setting, e.1 = some s.name ∧ s.decode? e.2 = some (o'.value? s)
  others : ∀ s : Setting, some s.name ∉ entries.map Prod.fst → o'.value? s = o.value? s
  functions : o'.functions = o.functions

section Entries

variable {d : Document} {seen : List String} {key value node : Node} {rest : List (Node × Node)}
  {entries entries' : List (Option String × Node)} {s : Setting} {o o' : Options}

theorem Describes.perm (h : Describes entries o o') (perm : entries.Perm entries') :
    Describes entries' o o' where
  entry e he := h.entry e (perm.mem_iff.mpr he)
  others s hs := h.others s fun hmem => hs ((perm.map Prod.fst).mem_iff.mp hmem)
  functions := h.functions

/-- An entry changes its setting, and those that follow do not change it again. -/
theorem describes_cons {v : Option s.Value} (fresh : some s.name ∉ entries.map Prod.fst)
    (decoded : s.decode? node = some v) :
    Describes ((some s.name, node) :: entries) o o' ↔ Describes entries (o.put s v) o' := by
  constructor
  · intro h
    refine ⟨fun e he => h.entry e (List.mem_cons_of_mem _ he), fun s' hs' => ?_, ?_⟩
    · by_cases hne : s' = s
      · obtain ⟨s₁, hname, hvalue⟩ := h.entry _ List.mem_cons_self
        cases Setting.name_injective (Option.some.inj hname)
        rw [decoded] at hvalue
        rw [hne, Options.value?_put_self, Option.some.inj hvalue]
      · have hname : some s'.name ≠ some s.name := fun heq =>
          hne (Setting.name_injective (Option.some.inj heq))
        rw [Options.value?_put_of_ne hne]
        exact h.others s' fun hmem => (List.mem_cons.mp hmem).elim hname hs'
    · rw [h.functions, Options.functions_put]
  · intro h
    refine ⟨fun e he => ?_, fun s' hs' => ?_, ?_⟩
    · rcases List.mem_cons.mp he with rfl | he
      · exact ⟨s, rfl, by rw [h.others s fresh, Options.value?_put_self, decoded]⟩
      · exact h.entry e he
    · have hne : s' ≠ s := by
        rintro rfl
        exact hs' List.mem_cons_self
      rw [h.others s' fun hmem => hs' (List.mem_cons_of_mem _ hmem), Options.value?_put_of_ne hne]
    · rw [h.functions, Options.functions_put]

/-- Entries that can be read one by one describe some options. -/
theorem exists_describes (once : (entries.map Prod.fst).Nodup)
    (readable : ∀ e ∈ entries, ∃ s : Setting, e.1 = some s.name ∧ (s.decode? e.2).isSome = true) :
    ∃ o', Describes entries o o' := by
  induction entries generalizing o with
  | nil => exact ⟨o, by simp, fun _ _ => rfl, rfl⟩
  | cons e rest ih =>
      obtain ⟨fresh, once⟩ := List.nodup_cons.mp once
      obtain ⟨s, hname, hsome⟩ := readable e List.mem_cons_self
      obtain ⟨v, decoded⟩ := Option.isSome_iff_exists.mp hsome
      obtain ⟨o', h⟩ := @ih (o.put s v) once fun e he => readable e (List.mem_cons_of_mem _ he)
      rw [hname] at fresh
      refine ⟨o', ?_⟩
      rw [show e = (some s.name, e.2) from Prod.ext hname rfl]
      exact (describes_cons fresh decoded).mpr h

/-! ### The reader of entries -/

/-- An entry is accepted if it names a setting that has not been named and has a value for it. -/
theorem readEntries_cons :
    Options.readEntries d seen ((key, value) :: rest) o = .ok o' ↔
      ∃ (s : Setting) (v : Option s.Value), (d.resolve key).text? = some s.name ∧ s.name ∉ seen ∧
        s.decode? (d.resolve value) = some v ∧
        Options.readEntries d (s.name :: seen) rest (o.put s v) = .ok o' := by
  rw [Options.readEntries]
  cases hkey : d.resolve key with
  | scalar k anchor =>
      dsimp only [Yaml.Node.text?]
      by_cases hknown : k.text ∈ Options.settings
      · obtain ⟨s, hname⟩ := Setting.mem_settings.mp hknown
        have hcontains : (!Options.settings.contains s.name) = false := by
          rw [← hname]
          simpa using hknown
        have honly : ∀ {s' : Setting}, some s.name = some s'.name → s' = s :=
          fun heq => (Setting.name_injective (Option.some.inj heq)).symm
        rw [hname, hcontains, if_neg Bool.false_ne_true]
        by_cases hseen : s.name ∈ seen
        · rw [if_pos (by simpa using hseen)]
          refine iff_of_false (by simp) ?_
          rintro ⟨s', v, heq, hnot, -⟩
          rw [honly heq] at hnot
          exact hnot hseen
        · rw [if_neg (by simpa using hseen), Options.readSetting_eq, bind_eq_ok]
          constructor
          · rintro ⟨_, hput, hrest⟩
            obtain ⟨v, hread, rfl⟩ := map_eq_ok.mp hput
            exact ⟨s, v, rfl, hseen, Setting.read_eq_ok.mp hread, hrest⟩
          · rintro ⟨s', v, heq, -, hdecode, hrest⟩
            cases honly heq
            exact ⟨_, map_eq_ok.mpr ⟨v, Setting.read_eq_ok.mpr hdecode, rfl⟩, hrest⟩
      · rw [if_pos (by simpa using hknown)]
        refine iff_of_false (by simp) ?_
        rintro ⟨s, v, heq, -⟩
        exact hknown (Setting.mem_settings.mpr ⟨s, Option.some.inj heq⟩)
  | _ => simp [Yaml.Node.text?]

/-- **What the reader accepts, and what it makes of it**, with the keys that came before. -/
theorem readEntries_eq_ok {raw : List (Node × Node)} :
    Options.readEntries d seen raw o = .ok o' ↔
      ((d.named raw).map Prod.fst).Nodup ∧ (∀ name ∈ seen, some name ∉ (d.named raw).map Prod.fst) ∧
        Describes (d.named raw) o o' := by
  induction raw generalizing seen o with
  | nil =>
      rw [Options.readEntries]
      constructor
      · rintro ⟨⟩
        exact ⟨List.nodup_nil, fun _ _ => List.not_mem_nil, by simp [Yaml.Document.named],
          fun _ _ => rfl, rfl⟩
      · rintro ⟨-, -, h⟩
        rw [Options.ext_value (fun s => h.others s List.not_mem_nil) h.functions]
  | cons e rest ih =>
      obtain ⟨key, value⟩ := e
      have hnamed : d.named ((key, value) :: rest) =
          ((d.resolve key).text?, d.resolve value) :: d.named rest := rfl
      rw [readEntries_cons, hnamed, List.map_cons, List.nodup_cons]
      constructor
      · rintro ⟨s, v, hkey, hseen, hdecode, hrest⟩
        obtain ⟨once, hunseen, h⟩ := ih.mp hrest
        have fresh := hunseen s.name List.mem_cons_self
        rw [hkey]
        refine ⟨⟨fresh, once⟩, fun name hname hmem => ?_, (describes_cons fresh hdecode).mpr h⟩
        rcases List.mem_cons.mp hmem with heq | hmem
        · exact hseen (Option.some.inj heq ▸ hname)
        · exact hunseen name (List.mem_cons_of_mem _ hname) hmem
      · rintro ⟨⟨fresh, once⟩, hunseen, h⟩
        obtain ⟨s, hkey, hdecode⟩ := h.entry _ List.mem_cons_self
        dsimp only at hkey hdecode
        rw [hkey] at fresh h hunseen
        refine ⟨s, _, hkey, fun hseen => hunseen s.name hseen List.mem_cons_self, hdecode, ?_⟩
        refine ih.mpr ⟨once, fun name hname => ?_, (describes_cons fresh hdecode).mp h⟩
        rcases List.mem_cons.mp hname with rfl | hname
        · exact fresh
        · exact fun hmem => hunseen name hname (List.mem_cons_of_mem _ hmem)

end Entries

/-! ### Documents -/

/-- The document is a mapping, and these are its keys and values. -/
def Yaml.Document.Maps (d : Document) (named : List (Option String × Node)) : Prop :=
  ∃ entries tag anchor, d.root = some (.mapping entries tag anchor) ∧ d.named entries = named

/-- A mapping is read as its entries, and only if nothing else follows. -/
theorem ofDocument_eq_ok {d : Document} {named : List (Option String × Node)} {o : Options}
    (h : d.Maps named) :
    Options.ofDocument d = .ok o ↔
      d.complete = true ∧ (named.map Prod.fst).Nodup ∧ Describes named {} o := by
  obtain ⟨entries, tag, anchor, hroot, rfl⟩ := h
  have hread : Options.ofDocument d = .ok o ↔
      Options.readEntries d [] entries {} = .ok o ∧ d.complete = true := by
    unfold Options.ofDocument
    rw [hroot, bind_eq_ok]
    cases d.complete <;> simp [pure, Except.pure]
  rw [hread, readEntries_eq_ok, and_comm]
  simp only [List.not_mem_nil, false_implies, implies_true, true_and]

section Described

variable {named : List (Option String × Node)} {o : Options} {s : Setting} {c : Config}

theorem Describes.value?_eq_some {v : s.Value} (h : Describes named {} o) :
    o.value? s = some v ↔ ∃ e ∈ named, e.1 = some s.name ∧ s.decode? e.2 = some (some v) := by
  constructor
  · intro hvalue
    by_cases hmem : some s.name ∈ named.map Prod.fst
    · obtain ⟨e, he, hkey⟩ := List.mem_map.mp hmem
      obtain ⟨s', hname, hdecode⟩ := h.entry e he
      cases Setting.name_injective (Option.some.inj (hname.symm.trans hkey))
      exact ⟨e, he, hkey, by rw [hdecode, hvalue]⟩
    · rw [h.others s hmem, Options.value?_empty] at hvalue
      cases hvalue
  · rintro ⟨e, he, hkey, hsome⟩
    obtain ⟨s', hname, hdecode⟩ := h.entry e he
    cases Setting.name_injective (Option.some.inj (hname.symm.trans hkey))
    rw [hdecode] at hsome
    exact Option.some.inj hsome

theorem Describes.value?_eq_none (h : Describes named {} o) :
    o.value? s = none ↔ ∀ e ∈ named, e.1 = some s.name → e.2.isNull = true := by
  constructor
  · intro hvalue e he hkey
    obtain ⟨s', hname, hdecode⟩ := h.entry e he
    cases Setting.name_injective (Option.some.inj (hname.symm.trans hkey))
    exact Setting.decode?_eq_none.mp (hdecode.trans (congrArg some hvalue))
  · intro hnull
    refine Option.eq_none_iff_forall_ne_some.mpr fun v hvalue => ?_
    obtain ⟨e, he, hkey, hdecode⟩ := h.value?_eq_some.mp hvalue
    rw [Setting.decode?_eq_none.mpr (hnull e he hkey)] at hdecode
    cases hdecode

end Described

/-- **Options are read entry by entry, and strictly.**  A text that holds a mapping is accepted if
and only if it is readable to its end, its keys are names of settings, all different, and each value
by itself is null or a value of its setting.  A setting then has the value of its entry, if that is
not null, and otherwise none; nothing else of a configuration is changed; and the order of the
entries does not matter. -/
theorem options_of_mapping {text : String} {named : List (Option String × Node)}
    (h : (Document.ofText text).Maps named) :
    ((∃ o, Options.ofYaml text = .ok o) ↔
      (Document.ofText text).complete = true ∧ (named.map Prod.fst).Nodup ∧
        ∀ e ∈ named, ∃ s : Setting, e.1 = some s.name ∧ (s.decode? e.2).isSome = true) ∧
    (some "functions" ∈ named.map Prod.fst → ∀ o, Options.ofYaml text ≠ .ok o) ∧
    ∀ o, Options.ofYaml text = .ok o →
      (∀ s v, o.value? s = some v ↔
        ∃ e ∈ named, e.1 = some s.name ∧ s.decode? e.2 = some (some v)) ∧
      (∀ s, o.value? s = none ↔ ∀ e ∈ named, e.1 = some s.name → e.2.isNull = true) ∧
      o.functions = {} ∧
      (∀ c : Config, (∀ s, (∀ e ∈ named, e.1 = some s.name → e.2.isNull = true) →
        (c.apply o).value s = c.value s) ∧ (c.apply o).functions = c.functions) ∧
      ∀ text' named', (Document.ofText text').Maps named' →
        (Document.ofText text').complete = true → named.Perm named' →
        Options.ofYaml text' = .ok o := by
  refine ⟨⟨?_, ?_⟩, ?_, ?_⟩
  · rintro ⟨o, ho⟩
    obtain ⟨hcomplete, once, hdescribes⟩ := (ofDocument_eq_ok h).mp ho
    refine ⟨hcomplete, once, fun e he => ?_⟩
    obtain ⟨s, hname, hdecode⟩ := hdescribes.entry e he
    exact ⟨s, hname, by rw [hdecode]; rfl⟩
  · rintro ⟨hcomplete, once, readable⟩
    obtain ⟨o, hdescribes⟩ := exists_describes (o := {}) once readable
    exact ⟨o, (ofDocument_eq_ok h).mpr ⟨hcomplete, once, hdescribes⟩⟩
  · intro hfunctions o ho
    obtain ⟨e, he, hkey⟩ := List.mem_map.mp hfunctions
    obtain ⟨s, hname, -⟩ := ((ofDocument_eq_ok h).mp ho).2.2.entry e he
    have hno : ∀ s : Setting, "functions" ≠ s.name := by
      intro s
      cases s <;> decide
    exact hno s (Option.some.inj (hkey.symm.trans hname))
  · intro o ho
    obtain ⟨-, once, hdescribes⟩ := (ofDocument_eq_ok h).mp ho
    refine ⟨fun s v => hdescribes.value?_eq_some, fun s => hdescribes.value?_eq_none,
      hdescribes.functions, fun c => ⟨fun s hnull => ?_, ?_⟩,
      fun text' named' h' hcomplete perm => ?_⟩
    · rw [Config.value_apply, hdescribes.value?_eq_none.mpr hnull]
      rfl
    · show c.functions.merge o.functions = c.functions
      rw [hdescribes.functions]
      rfl
    · exact (ofDocument_eq_ok h').mpr
        ⟨hcomplete, (perm.map Prod.fst).nodup_iff.mp once, hdescribes.perm perm⟩

/-- A setting in quotes, and one that is null; in another order the same. -/
theorem options_of_mapping_null :
    ∃ o, Options.ofYaml "\x7b\"extension\": '.txt', 'collisions':\x7d" = .ok o ∧
      o.value? .extension = some ".txt" ∧ o.value? .collisions = none ∧
      Options.ofYaml "\x7b'collisions':, \"extension\": '.txt'\x7d" = .ok o := by
  have h : (Document.ofText "\x7b\"extension\": '.txt', 'collisions':\x7d").Maps
      [(some "extension", .scalar { text := ".txt", style := .singleQuoted } none),
        (some "collisions", .scalar { text := "" } none)] :=
    ⟨_, _, _, rfl, rfl⟩
  have h' : (Document.ofText "\x7b'collisions':, \"extension\": '.txt'\x7d").Maps
      [(some "collisions", .scalar { text := "" } none),
        (some "extension", .scalar { text := ".txt", style := .singleQuoted } none)] :=
    ⟨_, _, _, rfl, rfl⟩
  have hreadable : ∀ e ∈ [(some "extension",
      Node.scalar { text := ".txt", style := .singleQuoted } none),
      (some "collisions", .scalar { text := "" } none)],
      ∃ s : Setting, e.1 = some s.name ∧ (s.decode? e.2).isSome = true := by
    simp only [List.forall_mem_cons, List.not_mem_nil, false_implies, implies_true, and_true]
    exact ⟨⟨.extension, rfl, by decide⟩, ⟨.collisions, rfl, by decide⟩⟩
  obtain ⟨haccepted, -, hread⟩ := options_of_mapping h
  obtain ⟨o, ho⟩ := haccepted.mpr ⟨rfl, by decide, hreadable⟩
  obtain ⟨hvalue, hnone, -, -, horder⟩ := hread o ho
  refine ⟨o, ho, ?_, ?_, horder _ _ h' rfl (.swap _ _ _)⟩
  · exact (hvalue .extension ".txt").mpr ⟨_, List.mem_cons_self, rfl, rfl⟩
  · refine (hnone .collisions).mpr ?_
    simp only [List.forall_mem_cons, List.not_mem_nil, false_implies, implies_true, and_true]
    exact ⟨fun hkey => absurd hkey (by decide), fun _ => rfl⟩

end Folio
