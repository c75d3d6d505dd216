import StableWatch.Yaml.Scanner
import StableWatch.Yaml.Resolve
/-!
# YAML documents as trees of nodes

`Document.ofBytes` reads the first document of a YAML stream into a tree of nodes. Nodes are kept
in an array, children by their index in it, so that an alias can point back at the node its
anchor named.

Reading is recursive descent over the scanner's tokens, asking for a token only when the
grammar needs it, since a scanning error that lies beyond the first grammar error is never
reached:

* a document is implicit unless it starts with a directive or `---`; an explicit one takes
  `%YAML 1.1` at most once and `%TAG` once per handle, then needs `---`;
* a node is an alias, or takes an anchor and a tag in either order, then is a scalar, a
  collection, or empty when only properties were given;
* in block context a sequence may be indentless under a mapping key; a flow sequence may hold
  single-pair mappings written `key: value`;
* an empty node is a null scalar.

Each grammar error names the construct being read and where it started. Nesting and the loops
over a collection's entries all take a token, so the text's length bounds the fuel.

A scalar's tag is its explicit tag in short form, `!!str` when it is quoted or a block scalar,
and otherwise what its text stands for (`Yaml.plainTag`); collections default to `!!seq` and
`!!map`. Lines and columns of nodes count from one.
-/

namespace StableWatch.Yaml

/-- What a node is. -/
inductive NodeKind where
  | scalar
  | sequence
  | mapping
  | alias
  deriving DecidableEq, Repr, Inhabited

/-- A node of a document. A mapping's children are its keys and values, alternating. -/
structure Node where
  kind : NodeKind
  tag : String := ""
  value : String := ""
  style : ScalarStyle := .plain
  line : Nat := 0
  column : Nat := 0
  children : List Nat := []
  /-- The node an alias stands for. -/
  target : Nat := 0
  deriving DecidableEq, Repr, Inhabited

/-- A document: its nodes and the index of its root. -/
structure Document where
  nodes : Array Node
  root : Nat
  deriving Repr

/-- The state of reading a document. -/
structure Reading where
  scanner : Scanner
  nodes : Array Node := #[]
  /-- Anchors seen so far, latest first. -/
  anchors : List (String × Nat) := []
  /-- Tag handles of the document and their prefixes. -/
  handles : List (String × String) := []

/-- Reading steps: they change the reading or stop with a syntax error. -/
abbrev ReadM := StateT Reading (Except SyntaxError)

namespace Reading

/-- Runs a scanning step on the reading's scanner. -/
def scan {α : Type} (m : ScanM α) : ReadM α := do
  let r ← get
  match m.run r.scanner with
  | .ok (a, scanner) => set { r with scanner } *> pure a
  | .error e => throw e

/-- The next token. -/
def peek : ReadM Token := scan Scanner.peekToken

/-- Takes the next token. -/
def skip : ReadM Unit := scan Scanner.skipToken

/-- Stops with a grammar error. -/
def fail {α : Type} (context : String) (contextMark : Mark) (problem : String) (problemMark : Mark) :
    ReadM α :=
  throw { stage := .parser, context, contextMark, problem, problemMark }

/-- Adds a node and gives its index. -/
def push (n : Node) : ReadM Nat := do
  let r ← get
  set { r with nodes := r.nodes.push n }
  pure r.nodes.size

/-- Sets the children of a node. -/
def setChildren (i : Nat) (children : List Nat) : ReadM Unit :=
  modify fun r => { r with nodes := r.nodes.modify i fun n => { n with children } }

/-- Names a node by an anchor, if one was given. -/
def anchor (name : Option String) (i : Nat) : ReadM Unit :=
  match name with
  | some a => modify fun r => { r with anchors := (a, i) :: r.anchors }
  | none => pure ()

/-- An empty node at a position: a null scalar. -/
def empty (m : Mark) : ReadM Nat :=
  push { kind := .scalar, tag := "!!null", line := m.line + 1, column := m.column + 1 }

/-- The handle, prefix pairs every document knows. -/
def defaultHandles : List (String × String) :=
  [("!", "!"), ("!!", coreTagPrefix)]

/-- The tag written as a handle and a suffix, through the document's handles. -/
def tagOf (handle suffix : String) (start tagMark : Mark) : ReadM String := do
  if handle = "" then pure suffix
  else
    match (← get).handles.lookup handle with
    | some pfx => pure (pfx ++ suffix)
    | none => fail "while parsing a node" start "found undefined tag handle" tagMark

/-- The short tag a node gets: its explicit tag, unless that is absent or `!`. -/
def explicitTag (tag : String) : Option String :=
  if tag = "" || tag = "!" then none else some (shortTag tag)

/-- The tag of a scalar. -/
def scalarTag (tag text : String) (style : ScalarStyle) : String :=
  match explicitTag tag with
  | some t => t
  | none =>
    if style ≠ .plain then "!!str"
    else if text = "<<" then "!!merge"
    else plainTag text

/-- Whether a token is a block entry, a block end, a key or a value. -/
def endsBlockItem (k : TokenKind) (keys : Bool) : Bool :=
  match k with
  | .blockEntry | .blockEnd => true
  | .key | .value => keys
  | _ => false

mutual

/-- Reads a node; `block` allows block collections, `indentless` a sequence without
indentation. -/
def node (block indentless : Bool) : Nat → ReadM Nat
  | 0 => do empty (← peek).start
  | fuel + 1 => do
    let tok ← peek
    match tok.kind with
    | .alias name =>
      skip
      match (← get).anchors.lookup name with
      | some target =>
        push { kind := .alias, value := name, line := tok.start.line + 1,
               column := tok.start.column + 1, target }
      | none => throw { stage := .composer, problem := "unknown anchor '" ++ name ++ "' referenced" }
    | _ =>
      let start := tok.start
      let (anchorName, tagParts, tok) ← match tok.kind with
        | .anchor name => do
          skip
          let next ← peek
          match next.kind with
          | .tag h s => do skip; pure (some name, some (h, s, next.start), ← peek)
          | _ => pure (some name, none, next)
        | .tag h s => do
          skip
          let next ← peek
          match next.kind with
          | .anchor name => do skip; pure (some name, some (h, s, tok.start), ← peek)
          | _ => pure (none, some (h, s, tok.start), next)
        | _ => pure (none, none, tok)
      let tag ← match tagParts with
        | some (h, s, m) => tagOf h s start m
        | none => pure ""
      let line := start.line + 1
      let column := start.column + 1
      let collection (kind : NodeKind) (fallback : String) : Node :=
        { kind, tag := (explicitTag tag).getD fallback, line, column }
      -- no content follows: an empty scalar when properties were given, else an error
      let missing (problemMark : Mark) : ReadM Nat := do
        if anchorName.isSome || tag ≠ "" then
          let i ← push { kind := .scalar, tag := scalarTag tag "" .plain, line, column }
          anchor anchorName i
          pure i
        else
          fail (if block then "while parsing a block node" else "while parsing a flow node") start
            "did not find expected node content" problemMark
      match tok.kind with
      | .blockEntry =>
        if indentless then do
          let i ← push (collection .sequence "!!seq")
          anchor anchorName i
          let items ← indentlessItems [] fuel
          setChildren i items
          pure i
        else missing tok.start
      | .scalar text style => do
        skip
        let i ← push { kind := .scalar, tag := scalarTag tag text style, value := text, style,
                       line, column }
        anchor anchorName i
        pure i
      | .flowSequenceStart => do
        skip
        let i ← push (collection .sequence "!!seq")
        anchor anchorName i
        let items ← flowItems tok.start true [] fuel
        setChildren i items
        pure i
      | .flowMappingStart => do
        skip
        let i ← push (collection .mapping "!!map")
        anchor anchorName i
        let entries ← flowEntries tok.start true [] fuel
        setChildren i entries
        pure i
      | .blockSequenceStart =>
        if block then do
          skip
          let i ← push (collection .sequence "!!seq")
          anchor anchorName i
          let items ← blockItems tok.start [] fuel
          setChildren i items
          pure i
        else missing tok.start
      | .blockMappingStart =>
        if block then do
          skip
          let i ← push (collection .mapping "!!map")
          anchor anchorName i
          let entries ← blockEntries tok.start [] fuel
          setChildren i entries
          pure i
        else missing tok.start
      | _ => missing tok.start

/-- Reads the items of a block sequence up to its end. -/
def blockItems (mark : Mark) (items : List Nat) : Nat → ReadM (List Nat)
  | 0 => pure items
  | fuel + 1 => do
    let tok ← peek
    match tok.kind with
    | .blockEntry => do
      skip
      let next ← peek
      let item ← if endsBlockItem next.kind false then empty tok.stop else node true false fuel
      blockItems mark (items ++ [item]) fuel
    | .blockEnd => do skip; pure items
    | _ =>
      fail "while parsing a block collection" mark "did not find expected '-' indicator" tok.start

/-- Reads the items of a sequence without indentation, which ends at the first token that is
not an entry. -/
def indentlessItems (items : List Nat) : Nat → ReadM (List Nat)
  | 0 => pure items
  | fuel + 1 => do
    let tok ← peek
    match tok.kind with
    | .blockEntry => do
      skip
      let next ← peek
      let item ← if endsBlockItem next.kind true then empty tok.stop else node true false fuel
      indentlessItems (items ++ [item]) fuel
    | _ => pure items

/-- Reads the keys and values of a block mapping up to its end. -/
def blockEntries (mark : Mark) (entries : List Nat) : Nat → ReadM (List Nat)
  | 0 => pure entries
  | fuel + 1 => do
    let tok ← peek
    match tok.kind with
    | .key => do
      skip
      let next ← peek
      let key ← if endsBlockItem next.kind true && next.kind ≠ .blockEntry then empty tok.stop
        else node true true fuel
      let value ← blockValue fuel
      blockEntries mark (entries ++ [key, value]) fuel
    | .blockEnd => do skip; pure entries
    | _ => fail "while parsing a block mapping" mark "did not find expected key" tok.start

/-- Reads the value of a block mapping's entry, empty when there is none. -/
def blockValue : Nat → ReadM Nat
  | 0 => do empty (← peek).start
  | fuel + 1 => do
    let tok ← peek
    match tok.kind with
    | .value => do
      skip
      let next ← peek
      if endsBlockItem next.kind true && next.kind ≠ .blockEntry then empty tok.stop
      else node true true fuel
    | _ => empty tok.start

/-- Reads the items of a flow sequence up to `]`. -/
def flowItems (mark : Mark) (first : Bool) (items : List Nat) : Nat → ReadM (List Nat)
  | 0 => pure items
  | fuel + 1 => do
    let tok ← peek
    if tok.kind = .flowSequenceEnd then do skip; pure items
    else
      let tok ← if first then pure tok
        else if tok.kind = .flowEntry then do skip; peek
        else fail "while parsing a flow sequence" mark "did not find expected ',' or ']'" tok.start
      match tok.kind with
      | .flowSequenceEnd => do skip; pure items
      | .key => do
        skip
        let pair ← push { kind := .mapping, tag := "!!map", line := tok.start.line + 1,
                          column := tok.start.column + 1 }
        let next ← peek
        let key ← match next.kind with
          | .value | .flowEntry | .flowSequenceEnd => do skip; empty next.stop
          | _ => node false false fuel
        let value ← pairValue fuel
        let _ ← peek
        setChildren pair [key, value]
        flowItems mark false (items ++ [pair]) fuel
      | _ => do
        let item ← node false false fuel
        flowItems mark false (items ++ [item]) fuel

/-- Reads the value of a single-pair mapping in a flow sequence, empty when there is none. -/
def pairValue : Nat → ReadM Nat
  | 0 => do empty (← peek).start
  | fuel + 1 => do
    let tok ← peek
    match tok.kind with
    | .value => do
      skip
      let next ← peek
      match next.kind with
      | .flowEntry | .flowSequenceEnd => empty tok.start
      | _ => node false false fuel
    | _ => empty tok.start

/-- Reads the keys and values of a flow mapping up to its closing brace. -/
def flowEntries (mark : Mark) (first : Bool) (entries : List Nat) : Nat → ReadM (List Nat)
  | 0 => pure entries
  | fuel + 1 => do
    let tok ← peek
    if tok.kind = .flowMappingEnd then do skip; pure entries
    else
      let tok ← if first then pure tok
        else if tok.kind = .flowEntry then do skip; peek
        else fail "while parsing a flow mapping" mark "did not find expected ',' or '\x7d'" tok.start
      match tok.kind with
      | .flowMappingEnd => do skip; pure entries
      | .key => do
        skip
        let next ← peek
        let key ← match next.kind with
          | .value | .flowEntry | .flowMappingEnd => empty next.start
          | _ => node false false fuel
        let value ← flowValue fuel
        flowEntries mark false (entries ++ [key, value]) fuel
      | _ => do
        let key ← node false false fuel
        let value ← empty (← peek).start
        flowEntries mark false (entries ++ [key, value]) fuel

/-- Reads the value of a flow mapping's entry, empty when there is none. -/
def flowValue : Nat → ReadM Nat
  | 0 => do empty (← peek).start
  | fuel + 1 => do
    let tok ← peek
    match tok.kind with
    | .value => do
      skip
      let next ← peek
      match next.kind with
      | .flowEntry | .flowMappingEnd => empty next.start
      | _ => node false false fuel
    | _ => empty tok.start

end

/-- Reads the directives of an explicit document. -/
def directives (seenVersion : Bool) : Nat → ReadM Unit
  | 0 => pure ()
  | fuel + 1 => do
    let tok ← peek
    match tok.kind with
    | .versionDirective major minor =>
      if seenVersion then fail "" {} "found duplicate %YAML directive" tok.start
      else if major ≠ 1 || minor ≠ 1 then fail "" {} "found incompatible YAML document" tok.start
      else do skip; directives true fuel
    | .tagDirective handle pfx =>
      if ((← get).handles.lookup handle).isSome then
        fail "" {} "found duplicate %TAG directive" tok.start
      else do
        modify fun r => { r with handles := r.handles ++ [(handle, pfx)] }
        skip
        directives seenVersion fuel
    | _ => pure ()

/-- Adds the default handles that the document did not redefine. -/
def addDefaultHandles : ReadM Unit :=
  modify fun r =>
    { r with handles := r.handles ++ defaultHandles.filter fun (h, _) => (r.handles.lookup h).isNone }

/-- Reads the first document of the stream: none when the stream holds no document. -/
def document : ReadM (Option Nat) := do
  let fuel := (← get).scanner.rest.length * 8 + 16
  let _ ← peek
  skip
  let tok ← peek
  let root ← match tok.kind with
    | .streamEnd => pure none
    | .versionDirective _ _ | .tagDirective _ _ | .documentStart => do
      directives false fuel
      addDefaultHandles
      let tok ← peek
      if tok.kind ≠ .documentStart then
        fail "" {} "did not find expected <document start>" tok.start
      else do
        skip
        let tok ← peek
        match tok.kind with
        | .versionDirective _ _ | .tagDirective _ _ | .documentStart | .documentEnd
        | .streamEnd => some <$> empty tok.start
        | _ => some <$> node true false fuel
    | _ => do
      addDefaultHandles
      some <$> node true false fuel
  if root.isSome then
    let tok ← peek
    if tok.kind = .documentEnd then skip
  pure root

end Reading

/-- Reads the first document of a YAML stream: none when it holds no document. A fault of the
input stops reading once the scanner asks for its part of the stream (see `Input.ofBytes`). -/
def Document.ofBytes (bytes : List UInt8) : Except SyntaxError (Option Document) :=
  match Reading.document.run { scanner := Scanner.start (Input.ofBytes bytes) } with
  | .ok (some root, r) => .ok (some { nodes := r.nodes, root })
  | .ok (none, _) => .ok none
  | .error e => .error e

/-- The first document of a YAML text, as `Document.ofBytes` reads its UTF-8 bytes. -/
def Document.ofText (text : String) : Except SyntaxError (Option Document) :=
  Document.ofBytes text.toUTF8.toList

namespace Document

/-- The node at an index. -/
def get (d : Document) (i : Nat) : Node :=
  d.nodes.getD i default

end Document

end StableWatch.Yaml
