import StableWatch.Config.Basic
import StableWatch.Config.Dynamic
import StableWatch.Yaml.Node
import StableWatch.Path.Home
import StableWatch.Text.Base64
import StableWatch.Text.Utf8
/-!
# Decoding a configuration from YAML

`Config.ofDocument` fills a configuration, starting from the defaults, with what a YAML
document sets. Every place a node can land in is a `Slot`: the configuration, its two
sections, the path lists, the waiting time and the texts. Besides these, a node can be decoded
as a text (`Decoding.text`), a list of texts (`Decoding.textList`) or a value of no given type
(`Decoding.dynamic`).

* A scalar stands for what its tag and text resolve to (`Yaml.resolve`); a quoted or `!!str`
  scalar is text, and a `!!binary` scalar's text is the bytes its base64 spells. A text place
  takes the scalar's text, or a binary scalar's bytes; a waiting time reads a text as a
  duration; a null leaves a place as it is, except a list, which it empties.
* A section is filled key by key in document order. Each key is read as a text (a null key is
  skipped, and so is a key no field has); a field named twice is an error of the field. Two keys
  with the same kind and text are an error of the mapping, which then fills nothing.
* A plain `<<` key merges: after the other keys, the mapping it names (or each mapping of the
  sequence it names, in order) fills the section too, except for the keys already met. Those
  are the keys of the mapping holding the merge, read as values of no given type, and the keys
  the merge has filled so far; so the mapping's own keys win over merged ones, and an earlier
  merged mapping over a later one. A merge of anything but mappings stops decoding; a key that
  is itself a mapping or a sequence cannot be put in the set of keys met, and decoding crashes.
* A path list reads its node first as one text, and failing that, from scratch, as a list of
  texts (nulls dropped); the type errors of the second try are kept, and the list stays as it
  was. Each path has its tilde expanded, must then be absolute, and is cleaned.
* Anything else is a type error: `line N: cannot unmarshal TAG `text` into TYPE`, the text left
  out for collections and cut to seven bytes and `...` when longer than ten. Type errors do not
  stop decoding; they are reported together at the end.
* An alias decodes as the node it names; an alias met again while it is being decoded stops
  decoding. Every node decoded is counted, and so is every node decoded inside an alias; when
  more than 100 of over 1000 decoded nodes come from aliases, at a rate above 99%, decoding
  stops as excessive aliasing (the allowed rate falls to 10% from 400000 to 4000000 nodes).

Aliases being decoded are never decoded again inside themselves, and every step goes to a child
or through a new alias, so the square of the node count bounds the fuel.
-/

namespace StableWatch

open Yaml

/-- A place in a configuration that a node decodes into. -/
inductive Slot where
  | config
  | daemon
  | logging
  | roots
  | locations
  | debounce
  | backend
  | level
  deriving DecidableEq, Repr

namespace Slot

/-- The name of a place's type, as type errors show it. -/
def typeName : Slot → String
  | .config => "config.Config"
  | .daemon => "config.DaemonConfig"
  | .logging => "config.LoggingConfig"
  | .roots | .locations => "config.PathList"
  | .debounce => "time.Duration"
  | .backend | .level => "string"

/-- The fields of a section, by key. -/
def fields : Slot → List (String × Slot)
  | .config => [("roots", .roots), ("locations", .locations), ("daemon", .daemon),
      ("logging", .logging)]
  | .daemon => [("debounce", .debounce), ("backend", .backend)]
  | .logging => [("level", .level)]
  | _ => []

/-- Whether a place is a section, filled by a mapping. -/
def isSection (s : Slot) : Bool :=
  !s.fields.isEmpty

/-- Whether a place is a path list. -/
def isPathList (s : Slot) : Bool :=
  s = .roots || s = .locations

/-- Sets a path list. -/
def setPaths (s : Slot) (paths : List String) (c : Config) : Config :=
  match s with
  | .roots => { c with roots := paths }
  | .locations => { c with locations := paths }
  | _ => c

end Slot

/-- What decoding keeps as it goes: type errors in order, the aliases being decoded, how many
nodes were decoded and how many of them inside aliases, and the keys met by the merge under
way, if one is. -/
structure Decoding where
  errors : List String := []
  expanding : List Nat := []
  decoded : Nat := 0
  viaAlias : Nat := 0
  aliasDepth : Nat := 0
  merged : Option (List Dynamic) := none

/-- Decoding steps: they collect type errors, or stop with an error. -/
abbrev DecodeM := StateT Decoding (Except ConfigError)

/-- What a scalar resolves to: its tag, its kind of value, and for a binary scalar the bytes
its base64 spells. -/
structure Resolved where
  tag : String
  value : Value
  bytes : Option (List Nat) := none

namespace Decoding

/-- The first `limit` bytes of a text; a character cut in two leaves one replacement character
per byte kept. -/
def takeBytes (limit : Nat) : List Char → List Char
  | [] => []
  | c :: rest =>
    let size := c.utf8Size
    if size ≤ limit then c :: takeBytes (limit - size) rest
    else List.replicate limit '\uFFFD'

/-- How a type error shows a node's text. -/
def shownValue (tag value : String) : String :=
  if tag = "!!seq" || tag = "!!map" then ""
  else if value.utf8ByteSize > 10 then " `" ++ String.ofList (takeBytes 7 value.toList) ++ "...`"
  else " `" ++ value ++ "`"

/-- Records a type error for a node that does not fit a type. -/
def typeError (n : Node) (tag typeName : String) : DecodeM Unit :=
  let tag := if n.tag ≠ "" then n.tag else tag
  modify fun s => { s with errors := s.errors ++
    ["line " ++ toString n.line ++ ": cannot unmarshal " ++ tag ++ shownValue tag n.value ++
      " into " ++ typeName] }

/-- Records a plain error. -/
def note (line : String) : DecodeM Unit :=
  modify fun s => { s with errors := s.errors ++ [line] }

/-- The keys of a mapping's children. -/
def keys : List Nat → List Nat
  | k :: _ :: rest => k :: keys rest
  | _ => []

/-- The key, value pairs of a mapping's children. -/
def entries : List Nat → List (Nat × Nat)
  | k :: v :: rest => (k, v) :: entries rest
  | _ => []

/-- Records an error for every key that repeats an earlier one in kind and text; whether there
was one. -/
def duplicateKeys (d : Document) (n : Node) : DecodeM Bool := do
  let ks := (keys n.children).map d.get
  let clashes := ks.zipIdx.flatMap fun (ki, i) =>
    (ks.drop (i + 1)).filterMap fun kj =>
      if ki.kind = kj.kind && ki.value = kj.value then
        some ("line " ++ toString kj.line ++ ": mapping key " ++ Text.quote kj.value ++
          " already defined at line " ++ toString ki.line)
      else none
  clashes.forM note
  pure !clashes.isEmpty

/-- Stops decoding. -/
def stop {α : Type} (problem : String) : DecodeM α :=
  throw (.decoding problem)

/-- Crashes on a key of a type that cannot be hashed. -/
def crash {α : Type} (typeName : String) : DecodeM α :=
  throw (.panicked ("runtime error: hash of unhashable type " ++ typeName))

/-- Whether aliases account for too many of the nodes decoded. -/
def excessive (decoded viaAlias : Nat) : Bool :=
  if decoded ≤ 400000 then 100 * viaAlias > 99 * decoded
  else if decoded ≥ 4000000 then 10 * viaAlias > decoded
  else (viaAlias * 360000000 : Int) > decoded * (356400000 - 89 * ((decoded : Int) - 400000))

/-- Counts a node about to be decoded, and stops on excessive aliasing. -/
def enter : DecodeM Unit := do
  modify fun s => { s with decoded := s.decoded + 1,
                           viaAlias := if s.aliasDepth > 0 then s.viaAlias + 1 else s.viaAlias }
  let s ← get
  if s.viaAlias > 100 && s.decoded > 1000 && excessive s.decoded s.viaAlias then
    stop "document contains excessive aliasing"

/-- What a scalar resolves to. -/
def resolvedOf (n : Node) : DecodeM Resolved :=
  if n.tag = "!!str" then pure { tag := "!!str", value := .str }
  else
    match resolve n.tag n.value with
    | .ok (tag, v) =>
      if tag = "!!binary" then
        match Text.decodeBase64 n.value with
        | some bytes => pure { tag, value := v, bytes := some bytes }
        | none => stop "!!binary value contains invalid base64 data"
      else pure { tag, value := v }
    | .error problem => stop problem

/-- The bytes of a text. -/
def bytesOf (text : String) : List Nat :=
  text.toUTF8.toList.map (·.toNat)

/-- The text bytes spell. -/
def textOf (bytes : List Nat) : String :=
  String.ofList (Text.decodeUtf8 bytes)

end Decoding

namespace Resolved

/-- The text of a resolved scalar: a binary scalar's bytes, or else its own text. -/
def text (r : Resolved) (n : Node) : List Nat :=
  r.bytes.getD (Decoding.bytesOf n.value)

/-- Whether a resolved scalar is a text: a string, a binary scalar, or a tag of no schema. -/
def isText (r : Resolved) : Bool :=
  r.value = .str || r.value = .other || r.value = .merge

end Resolved

namespace Decoding

/-- The value of no given type a resolved scalar stands for. -/
def dynamicOf (n : Node) (r : Resolved) : Dynamic :=
  match r.bytes with
  | some bytes => .str (textOf bytes)
  | none =>
    match r.value with
    | .null => .null
    | .bool => .bool (n.value = "true" || n.value = "True" || n.value = "TRUE")
    | .int =>
      let plain := n.value.toList.filter (· ≠ '_')
      match signedValue plain with
      | some i => .int i
      | none => .uint ((unsignedValue plain).getD 0)
    | .float => .float n.value
    | .timestamp => .time n.value
    | _ => .str n.value

/-- Whether a key merges a mapping into a section. -/
def isMerge (n : Node) : Bool :=
  n.kind = .scalar && n.value = "<<" && (n.tag = "" || n.tag = "!" || n.tag = "!!merge")

/-- The short tag of a node: an alias has that of the node it names. -/
def shortTagOf (d : Document) (n : Node) : String :=
  if n.kind = .alias then (d.get n.target).tag else n.tag

/-- Whether the keys of a mapping are all texts or merge keys: decoded without a given type,
it is then a map of texts. -/
def hasTextKeys (d : Document) (n : Node) : Bool :=
  (keys n.children).all fun k =>
    let t := shortTagOf d (d.get k)
    t = "!!str" || t = "!!merge"

/-- Decodes an alias by decoding what it names, unless it is being decoded already. -/
def throughAlias {α : Type} (i : Nat) (n : Node) (k : DecodeM α) : DecodeM α := do
  if (← get).expanding.contains i then stop ("anchor '" ++ n.value ++ "' value contains itself")
  else
    modify fun s => { s with expanding := i :: s.expanding, aliasDepth := s.aliasDepth + 1 }
    let r ← k
    modify fun s => { s with expanding := s.expanding.erase i, aliasDepth := s.aliasDepth - 1 }
    pure r

/-- Decodes a node as a text: its bytes, or none when it is null or does not fit. -/
def text (d : Document) : Nat → Nat → DecodeM (Option (List Nat))
  | 0, _ => pure none
  | fuel + 1, i => do
    enter
    let n := d.get i
    match n.kind with
    | .alias => throughAlias i n (text d fuel n.target)
    | .scalar => do
      let r ← resolvedOf n
      pure (if r.value = .null then none else some (r.text n))
    | .sequence => do typeError n "!!seq" "string"; pure none
    | .mapping => do
      if ← duplicateKeys d n then pure none
      else do typeError n "!!map" "string"; pure none

/-- Decodes the items of a sequence as texts, dropping those that do not decode. -/
def texts (d : Document) (fuel : Nat) : List Nat → DecodeM (List (List Nat))
  | [] => pure []
  | i :: rest => do
    let first ← text d fuel i
    let others ← texts d fuel rest
    pure (match first with
      | some t => t :: others
      | none => others)

/-- Decodes a node as a list of texts: none when it does not fit. -/
def textList (d : Document) : Nat → Nat → DecodeM (Option (List (List Nat)))
  | 0, _ => pure none
  | fuel + 1, i => do
    enter
    let n := d.get i
    match n.kind with
    | .alias => throughAlias i n (textList d fuel n.target)
    | .scalar => do
      let r ← resolvedOf n
      if r.value = .null then pure (some [])
      else do typeError n r.tag "[]string"; pure none
    | .sequence => some <$> texts d fuel n.children
    | .mapping => do
      if ← duplicateKeys d n then pure none
      else do typeError n "!!map" "[]string"; pure none

/-- The paths of a path list, tilde expanded, checked to be absolute, and cleaned. -/
def expandPaths (env : Environment) (paths : List (List Nat)) : DecodeM (List String) :=
  paths.mapM fun p =>
    let expanded := Places.expandTilde env (textOf p)
    if Path.isAbs expanded then pure (Path.clean expanded)
    else throw (.relativePath expanded)

/-- Reads a path list's node as a list of texts, from scratch; type errors are kept. -/
def pathsAsList (env : Environment) (d : Document) (fuel i : Nat) :
    DecodeM (Option (List String)) :=
  match (textList d fuel i).run {} with
  | .error e => throw e
  | .ok (list, inner) =>
    if inner.errors.isEmpty then some <$> expandPaths env (list.getD [])
    else do
      modify fun s => { s with errors := s.errors ++ inner.errors }
      pure none

/-- Decodes a path list from a node that is not null: one text, or failing that a list of
texts; none when the list stays as it was. -/
def pathList (env : Environment) (d : Document) (fuel i : Nat) : DecodeM (Option (List String)) :=
  match (text d fuel i).run {} with
  | .ok (single, inner) =>
    if inner.errors.isEmpty then some <$> expandPaths env [single.getD []]
    else pathsAsList env d fuel i
  | .error (.panicked message) => throw (.panicked message)
  | .error _ => pathsAsList env d fuel i

/-- The problem of a merge key that names no mapping. -/
def wantMap : String := "map merge requires map or sequence of maps as the value"

/-- Whether a node merges: a mapping, or an alias of one. -/
def mergeable (d : Document) (n : Node) : Bool :=
  n.kind = .mapping || (n.kind = .alias && (d.get n.target).kind = .mapping)

/-- Puts a key in the set of keys met by the merge under way; a key that cannot be hashed
crashes. -/
def meet (k : Dynamic) : DecodeM Unit := do
  match k.unhashable with
  | some typeName => crash typeName
  | none => modify fun s => { s with merged := s.merged.map (Dynamic.insertKey k) }

/-- Sets an entry of a map being decoded, replacing an entry of the same key. -/
def setEntry (k v : Dynamic) (es : List (Dynamic × Dynamic)) : List (Dynamic × Dynamic) :=
  if es.any (fun e => Dynamic.sameKey e.1 k) then
    es.map fun e => if Dynamic.sameKey e.1 k then (e.1, v) else e
  else es ++ [(k, v)]

mutual

/-- Decodes a node as a value of no given type: none when it does not decode. -/
def dynamic (d : Document) : Nat → Nat → DecodeM (Option Dynamic)
  | 0, _ => pure none
  | fuel + 1, i => do
    enter
    let n := d.get i
    match n.kind with
    | .alias => throughAlias i n (dynamic d fuel n.target)
    | .scalar => do
      let r ← resolvedOf n
      pure (some (dynamicOf n r))
    | .sequence => do
      let items ← dynamicItems d fuel n.children
      pure (some (.seq items))
    | .mapping => do
      if ← duplicateKeys d n then pure none
      else
        let textKeys := hasTextKeys d n
        let es ← fillMap d fuel textKeys true i []
        pure (some (Dynamic.sortedMap textKeys es))

/-- Decodes the items of a sequence as values of no given type, dropping those that do not
decode. -/
def dynamicItems (d : Document) : Nat → List Nat → DecodeM (List Dynamic)
  | 0, _ => pure []
  | _ + 1, [] => pure []
  | fuel + 1, i :: rest => do
    let first ← dynamic d fuel i
    let others ← dynamicItems d fuel rest
    pure (match first with
      | some v => v :: others
      | none => others)

/-- Fills the entries of a map from the mapping node `i`, then its merge; `fresh` tells whether
the map was just made. -/
def fillMap (d : Document) : Nat → Bool → Bool → Nat → List (Dynamic × Dynamic) →
    DecodeM (List (Dynamic × Dynamic))
  | 0, _, _, _, es => pure es
  | fuel + 1, textKeys, fresh, i, es => do
    let n := d.get i
    let saved := (← get).merged
    modify fun s => { s with merged := none }
    let (es, saved, mergeNode) ← mapEntries d fuel textKeys fresh (entries n.children) es saved none
    modify fun s => { s with merged := saved }
    match mergeNode with
    | some m => mergeMap d fuel textKeys n m es
    | none => pure es

/-- Fills a map entry by entry; gives the entries, the keys met by the merge under way and the
node a merge key names. -/
def mapEntries (d : Document) : Nat → Bool → Bool → List (Nat × Nat) →
    List (Dynamic × Dynamic) → Option (List Dynamic) → Option Nat →
    DecodeM (List (Dynamic × Dynamic) × Option (List Dynamic) × Option Nat)
  | 0, _, _, _, es, saved, mergeNode => pure (es, saved, mergeNode)
  | _ + 1, _, _, [], es, saved, mergeNode => pure (es, saved, mergeNode)
  | fuel + 1, textKeys, fresh, (k, v) :: rest, es, saved, mergeNode => do
    let keyNode := d.get k
    if isMerge keyNode then mapEntries d fuel textKeys fresh rest es saved (some v)
    else
      let key ← if textKeys then (fun t => t.map fun b => Dynamic.str (textOf b)) <$> text d fuel k
        else dynamic d fuel k
      match key with
      | none => mapEntries d fuel textKeys fresh rest es saved mergeNode
      | some key =>
        let seen ← match saved with
          | some known => do
            match key.unhashable with
            | some typeName => crash typeName
            | none => pure (Dynamic.memberOf known key)
          | none => pure false
        if seen then mapEntries d fuel textKeys fresh rest es saved mergeNode
        else
          let saved := saved.map (· ++ [key])
          if key.unhashable.isSome then stop ("invalid map key: " ++ key.shown)
          else
            let value ← dynamic d fuel v
            let isNull := shortTagOf d (d.get v) = "!!null"
            let es := match value with
              | some value => setEntry key value es
              | none =>
                if isNull && (fresh || !es.any (fun e => Dynamic.sameKey e.1 key)) then
                  setEntry key .null es
                else es
            mapEntries d fuel textKeys fresh rest es saved mergeNode

/-- Decodes a node into an existing map, as a merge does. -/
def intoMap (d : Document) : Nat → Bool → Nat → List (Dynamic × Dynamic) →
    DecodeM (List (Dynamic × Dynamic))
  | 0, _, _, es => pure es
  | fuel + 1, textKeys, i, es => do
    enter
    let n := d.get i
    match n.kind with
    | .alias => throughAlias i n (intoMap d fuel textKeys n.target es)
    | .mapping => do
      if ← duplicateKeys d n then pure es
      else fillMap d fuel textKeys false i es
    | _ => do
      typeError n (if n.kind = .sequence then "!!seq" else n.tag) (Dynamic.mapType textKeys)
      pure es

/-- Reads the keys of the mapping holding a merge into the set of keys met. -/
def meetKeys (d : Document) : Nat → List Nat → DecodeM Unit
  | 0, _ => pure ()
  | _ + 1, [] => pure ()
  | fuel + 1, k :: rest => do
    match ← dynamic d fuel k with
    | some key => meet key
    | none => pure ()
    meetKeys d fuel rest

/-- Merges the mappings a merge key names into a map. -/
def mergeMap (d : Document) : Nat → Bool → Node → Nat → List (Dynamic × Dynamic) →
    DecodeM (List (Dynamic × Dynamic))
  | 0, _, _, _, es => pure es
  | fuel + 1, textKeys, parent, m, es => do
    let saved := (← get).merged
    if saved.isNone then
      modify fun s => { s with merged := some [] }
      meetKeys d fuel (keys parent.children)
    let n := d.get m
    let es ← match n.kind with
      | .mapping => intoMap d fuel textKeys m es
      | .alias =>
        if (d.get n.target).kind ≠ .mapping then stop wantMap
        else intoMap d fuel textKeys m es
      | .sequence => mergeMapItems d fuel textKeys n.children es
      | .scalar => stop wantMap
    if saved.isNone then modify fun s => { s with merged := none }
    pure es

/-- Merges the mappings of a sequence into a map, in order. -/
def mergeMapItems (d : Document) : Nat → Bool → List Nat → List (Dynamic × Dynamic) →
    DecodeM (List (Dynamic × Dynamic))
  | 0, _, _, es => pure es
  | _ + 1, _, [], es => pure es
  | fuel + 1, textKeys, i :: rest, es => do
    if !mergeable d (d.get i) then stop wantMap
    let es ← intoMap d fuel textKeys i es
    mergeMapItems d fuel textKeys rest es

end

/-- Merges the mappings a merge key names into a section of a configuration, the keys of the
holding mapping having been met. -/
def startMerge (d : Document) (fuel : Nat) (parent : Node) : DecodeM (Option (List Dynamic)) := do
  let saved := (← get).merged
  if saved.isNone then
    modify fun s => { s with merged := some [] }
    meetKeys d fuel (keys parent.children)
  pure saved

mutual

/-- Decodes a node into a place of a configuration. -/
def slot (env : Environment) (d : Document) (s : Slot) : Nat → Nat → Config → DecodeM Config
  | 0, _, c => pure c
  | fuel + 1, i, c => do
    enter
    let n := d.get i
    match n.kind with
    | .alias => throughAlias i n (slot env d s fuel n.target c)
    | kind =>
      if s.isPathList && n.tag ≠ "!!null" then do
        match ← pathList env d fuel i with
        | some paths => pure (s.setPaths paths c)
        | none => pure c
      else
        match kind with
        | .scalar => do
          let r ← resolvedOf n
          if r.value = .null then pure (s.setPaths [] c)
          else
            match s with
            | .backend => pure { c with daemon.backend := (r.text n).map UInt8.ofNat }
            | .level => pure { c with logging.level := textOf (r.text n) }
            | .debounce =>
              if r.isText then
                match Duration.parse (textOf (r.text n)) with
                | .ok debounce => pure { c with daemon.debounce := debounce }
                | .error _ => do typeError n r.tag s.typeName; pure c
              else do typeError n r.tag s.typeName; pure c
            | _ => do typeError n r.tag s.typeName; pure c
        | .sequence =>
          if s.isPathList then do
            let items ← texts d fuel n.children
            pure (s.setPaths (items.map textOf) c)
          else do typeError n "!!seq" s.typeName; pure c
        | _ => do
          if ← duplicateKeys d n then pure c
          else if s.isSection then fillSection env d s fuel n c
          else do typeError n "!!map" s.typeName; pure c

/-- Fills a section from a mapping, then from what its merge key names. -/
def fillSection (env : Environment) (d : Document) (s : Slot) : Nat → Node → Config →
    DecodeM Config
  | 0, _, c => pure c
  | fuel + 1, n, c => do
    let saved := (← get).merged
    modify fun st => { st with merged := none }
    let (c, saved, mergeNode) ← sectionEntries env d s fuel [] (entries n.children) saved none c
    modify fun st => { st with merged := saved }
    match mergeNode with
    | some m => mergeSection env d s fuel n m c
    | none => pure c

/-- Fills a section key by key; `done` holds the fields set so far. Gives the configuration,
the keys met by the merge under way and the node a merge key names. -/
def sectionEntries (env : Environment) (d : Document) (s : Slot) :
    Nat → List String → List (Nat × Nat) → Option (List Dynamic) → Option Nat → Config →
    DecodeM (Config × Option (List Dynamic) × Option Nat)
  | 0, _, _, saved, mergeNode, c => pure (c, saved, mergeNode)
  | _ + 1, _, [], saved, mergeNode, c => pure (c, saved, mergeNode)
  | fuel + 1, done, (k, v) :: rest, saved, mergeNode, c => do
    let key := d.get k
    if isMerge key then sectionEntries env d s fuel done rest saved (some v) c
    else
      match ← text d fuel k with
      | none => sectionEntries env d s fuel done rest saved mergeNode c
      | some bytes =>
        let name := textOf bytes
        let seen := match saved with
          | some known => Dynamic.memberOf known (.str name)
          | none => false
        if seen then sectionEntries env d s fuel done rest saved mergeNode c
        else
          let saved := saved.map (· ++ [.str name])
          match s.fields.lookup name with
          | none => sectionEntries env d s fuel done rest saved mergeNode c
          | some field =>
            if done.contains name then do
              note ("line " ++ toString key.line ++ ": field " ++ name ++ " already set in type " ++
                s.typeName)
              sectionEntries env d s fuel done rest saved mergeNode c
            else do
              let c ← slot env d field fuel v c
              sectionEntries env d s fuel (name :: done) rest saved mergeNode c

/-- Merges the mappings a merge key names into a section. -/
def mergeSection (env : Environment) (d : Document) (s : Slot) : Nat → Node → Nat → Config →
    DecodeM Config
  | 0, _, _, c => pure c
  | fuel + 1, parent, m, c => do
    let saved ← startMerge d fuel parent
    let n := d.get m
    let c ← match n.kind with
      | .mapping => slot env d s fuel m c
      | .alias =>
        if (d.get n.target).kind ≠ .mapping then stop wantMap
        else slot env d s fuel m c
      | .sequence => mergeSectionItems env d s fuel n.children c
      | .scalar => stop wantMap
    if saved.isNone then modify fun st => { st with merged := none }
    pure c

/-- Merges the mappings of a sequence into a section, in order. -/
def mergeSectionItems (env : Environment) (d : Document) (s : Slot) :
    Nat → List Nat → Config → DecodeM Config
  | 0, _, c => pure c
  | _ + 1, [], c => pure c
  | fuel + 1, i :: rest, c => do
    if !mergeable d (d.get i) then stop wantMap
    let c ← slot env d s fuel i c
    mergeSectionItems env d s fuel rest c

end

end Decoding

namespace Config

/-- The configuration a YAML document sets, over the defaults. -/
def ofDocument (env : Environment) (d : Document) : Except ConfigError Config :=
  let size := d.nodes.size + 2
  let run : DecodeM Config := do
    Decoding.enter
    Decoding.slot env d .config (2 * size * size) d.root {}
  match run.run {} with
  | .error e => .error e
  | .ok (c, s) => if s.errors.isEmpty then .ok c else .error (.types s.errors)

/-- The configuration a YAML stream sets, over the defaults. -/
def ofBytes (env : Environment) (bytes : List UInt8) : Except ConfigError Config :=
  match Document.ofBytes bytes with
  | .error e => .error (.malformed e)
  | .ok none => .ok {}
  | .ok (some d) => ofDocument env d

/-- The configuration a YAML text sets, over the defaults. -/
def ofText (env : Environment) (text : String) : Except ConfigError Config :=
  ofBytes env text.toUTF8.toList

end Config

end StableWatch
