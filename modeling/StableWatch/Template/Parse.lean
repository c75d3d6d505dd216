import StableWatch.Template.Literal
/-!
# Parsing templates

`Document.parse name functions text` reads a template into its nodes. The reader looks at most
three tokens ahead and reports the first thing it cannot read, as
`template: NAME:LINE: MESSAGE`, where the line is that of the furthest token read so far:

* an error of the scanner, with ` started at NAME:LINE` (or ` in action started at NAME:LINE`)
  when it lies on a later line than the action it ends;
* `unexpected TOKEN in CONTEXT` for a token that cannot stand where it stands;
* `function "f" not defined` for a name that is neither a built-in function nor one of
  `functions`, and `undefined variable "$x"` for a variable not declared before;
* `missing value for CONTEXT`, `empty command`, `non executable command in pipeline stage N`,
  `unexpected . after term "T"`, `too many declarations in CONTEXT`, `range can only initialize
  variables`, `{{break}} outside {{range}}`, `unexpected EOF`, `expected end; found {{else}}`,
  `unexpected {{end}}` and the refusals of the literal readers.

`{{define "name"}}…{{end}}` at the top level and `{{block "name" pipeline}}…{{end}}` anywhere
define named templates. A name defined twice with text that is not blank both times is refused;
a blank definition gives way to the other. The template itself is defined under its own name in
the same way, last.
-/

namespace StableWatch.Template

/-- The functions every template may call. -/
def builtinFunctions : List String :=
  ["and", "call", "html", "index", "slice", "js", "len", "not", "or", "print", "printf",
    "println", "urlquery", "eq", "ge", "gt", "le", "lt", "ne"]

/-- A word between double braces, as messages show keywords. -/
def braced (word : String) : String :=
  "\x7b\x7b" ++ word ++ "\x7d\x7d"

/-- What reading one piece of a template found: a node, or the `end` or `else` that closes a
list of nodes. -/
inductive Piece where
  | node (n : Node)
  | finish (pos line : Nat)
  | otherwise (pos line : Nat)

/-- How a closing piece is named in messages. -/
def Piece.text : Piece → String
  | .finish .. => braced "end"
  | .otherwise .. => braced "else"
  | .node _ => ""

/-- The reader's state: the tokens, the index of the next one and how many were read, the
variables in scope, the line of the action being read (zero outside actions), how many `range`
bodies enclose the reader, and the templates defined so far. -/
structure Parser where
  name : String
  functions : List String
  tokens : Array Token
  next : Nat := 0
  read : Nat := 0
  vars : List String := ["$"]
  actionLine : Nat := 0
  rangeDepth : Nat := 0
  defined : List (String × List Node) := []

/-- Reading steps: they move through the tokens or stop with a message. -/
abbrev ParseM := StateT Parser (Except String)

namespace Parser

/-- The token at an index; past the end, the last token (the end of the text or an error). -/
def tokenAt (p : Parser) (i : Nat) : Token :=
  p.tokens.getD i (p.tokens.back?.getD { kind := .eof, text := "", pos := 0, line := 1 })

end Parser

/-- Takes the next token. -/
def advance : ParseM Token :=
  modifyGet fun p =>
    (p.tokenAt p.next, { p with next := p.next + 1, read := max p.read (p.next + 1) })

/-- Puts the last token taken back. -/
def backup : ParseM Unit :=
  modify fun p => { p with next := p.next - 1 }

/-- The next token, left in place. -/
def peek : ParseM Token := do
  let t ← advance
  backup
  pure t

/-- Takes the next token that is not a run of blanks (runs never follow each other). -/
def nextNonSpace : ParseM Token := do
  let t ← advance
  if t.kind = .space then advance else pure t

/-- The next token that is not a run of blanks, left in place; the blanks are taken. -/
def peekNonSpace : ParseM Token := do
  let t ← nextNonSpace
  backup
  pure t

/-- Stops with a message placed on a line. -/
def failOnLine {α : Type} (line : Nat) (message : String) : ParseM α := do
  throw ("template: " ++ (← get).name ++ ":" ++ toString line ++ ": " ++ message)

/-- Stops with a message placed on the line of the furthest token read. -/
def failAt {α : Type} (message : String) : ParseM α := do
  let p ← get
  failOnLine (p.tokenAt (p.read - 1)).line message

/-- Stops at a token that cannot stand here: an error of the scanner speaks for itself. -/
def unexpected {α : Type} (t : Token) (context : String) : ParseM α := do
  if t.kind = .error then
    let p ← get
    let extra :=
      if p.actionLine ≠ 0 ∧ p.actionLine ≠ t.line then
        let full := " in action started at " ++ p.name ++ ":" ++ toString p.actionLine
        if t.text.endsWith " action" then String.ofList (full.toList.drop " in action".length)
        else full
      else ""
    failAt (t.text ++ extra)
  else failAt ("unexpected " ++ t.describe ++ " in " ++ context)

/-- Takes a token of the expected kind. -/
def expect (kind : TokenKind) (context : String) : ParseM Token := do
  let t ← nextNonSpace
  if t.kind = kind then pure t else unexpected t context

/-- The name of a template in a `template`, `block` or `define` clause: a quoted string. -/
def templateName (t : Token) (context : String) : ParseM String :=
  if t.kind = .string ∨ t.kind = .rawString then
    match unquote t.text with
    | .ok name => pure (Text.ofBytes name)
    | .error e => failAt e
  else unexpected t context

/-- Defines a template by name: a blank definition gives way, two that are not blank clash. -/
def addTemplate (name : String) (root : List Node) : ParseM Unit := do
  let p ← get
  match p.defined.lookup name with
  | none => set { p with defined := p.defined ++ [(name, root)] }
  | some existing =>
    if blankNodes existing then
      set { p with defined := p.defined.map fun (n, r) => if n = name then (n, root) else (n, r) }
    else if !blankNodes root then
      failAt ("template: multiple definition of template " ++ Text.quote name)
    else pure ()

/-- Runs a reading step with a fresh scope: only `$` declared, outside any action and `range`. -/
def freshScope {α : Type} (step : ParseM α) : ParseM α := do
  let p ← get
  set { p with vars := ["$"], actionLine := 0, rangeDepth := 0 }
  let r ← step
  modify fun q => { q with vars := p.vars, actionLine := p.actionLine, rangeDepth := p.rangeDepth }
  pure r

/-- The token kinds that start a command. -/
def startsOperand (k : TokenKind) : Bool :=
  match k with
  | .bool | .charConstant | .complex | .keyword .dotWord | .field | .identifier | .number
  | .keyword .nilWord | .rawString | .string | .variable | .leftParen => true
  | _ => false

/-- Refuses a pipeline without commands, and a later stage that starts with a constant. -/
def checkPipeline (commands : List Command) (context : String) : ParseM Unit := do
  if commands.isEmpty then failAt ("missing value for " ++ context)
  let stages := (commands.drop 1).zip (List.range (commands.length - 1))
  for (c, i) in stages do
    match c.args.head? with
    | some (.bool ..) | some (.dot _) | some (.nil _) | some (.number ..) | some (.string ..) =>
      failAt ("non executable command in pipeline stage " ++ toString (i + 2))
    | _ => pure ()

/-- Declares a variable. -/
def declare (name : String) : ParseM Unit :=
  modify fun p => { p with vars := p.vars ++ [name] }

/-- A variable in an operand, which must be declared. -/
def useVariable (t : Token) : ParseM Term := do
  let p ← get
  if p.vars.contains t.text then pure (.variable t.pos [t.text])
  else failAt ("undefined variable " ++ Text.quote t.text)

mutual

/-- A term: a constant, a name, the dot, `nil` or a parenthesized pipeline; none when the next
token starts none of these (it is left in place). -/
def term : Nat → ParseM (Option Term)
  | 0 => failAt "unexpected EOF"
  | fuel + 1 => do
    let t ← nextNonSpace
    match t.kind with
    | .identifier =>
      let p ← get
      if builtinFunctions.contains t.text ∨ p.functions.contains t.text then
        pure (some (.identifier t.pos t.text))
      else failAt ("function " ++ Text.quote t.text ++ " not defined")
    | .keyword .dotWord => pure (some (.dot t.pos))
    | .keyword .nilWord => pure (some (.nil t.pos))
    | .variable => some <$> useVariable t
    | .field => pure (some (.field t.pos [String.ofList (t.text.toList.drop 1)]))
    | .bool => pure (some (.bool t.pos (t.text = "true")))
    | .charConstant | .complex | .number =>
      match readNumber t.kind t.text with
      | .ok c => pure (some (.number t.pos t.text c))
      | .error e => failAt e
    | .leftParen => do
      let p ← pipeline fuel "parenthesized pipeline" .rightParen
      pure (some (.pipe p))
    | .string | .rawString =>
      match unquote t.text with
      | .ok s => pure (some (.string t.pos t.text s))
      | .error e => failAt e
    | _ => do backup; pure none

/-- Field names following each other. -/
def fieldRun : Nat → ParseM (List String)
  | 0 => pure []
  | fuel + 1 => do
    let t ← peek
    if t.kind = .field then
      let _ ← advance
      let rest ← fieldRun fuel
      pure (String.ofList (t.text.toList.drop 1) :: rest)
    else pure []

/-- An operand: a term and the field names after it. Fields after a field or a variable lengthen
its path; fields after a constant, the dot or `nil` are refused. -/
def operand : Nat → ParseM (Option Term)
  | 0 => failAt "unexpected EOF"
  | fuel + 1 => do
    match ← term fuel with
    | none => pure none
    | some node =>
      let t ← peek
      if t.kind = .field then
        let names ← fieldRun fuel
        match node with
        | .field _ ns => pure (some (.field t.pos (ns ++ names)))
        | .variable _ ns => pure (some (.variable t.pos (ns ++ names)))
        | .bool .. | .string .. | .number .. | .nil _ | .dot _ =>
          failAt ("unexpected . after term " ++ Text.quote node.text)
        | _ => pure (some (.chain t.pos node names))
      else pure (some node)

/-- The operands of a command, up to a `|` (taken) or a closing delimiter or parenthesis (left). -/
def commandArgs : Nat → List Term → ParseM (List Term)
  | 0, _ => failAt "unexpected EOF"
  | fuel + 1, args => do
    let _ ← peekNonSpace
    let o ← operand fuel
    let args := args ++ o.toList
    let t ← advance
    match t.kind with
    | .space => commandArgs fuel args
    | .rightDelim | .rightParen => do backup; pure args
    | .pipe => pure args
    | _ => unexpected t "operand"

/-- A command. -/
def command : Nat → ParseM Command
  | 0 => failAt "unexpected EOF"
  | fuel + 1 => do
    let start ← peekNonSpace
    let args ← commandArgs fuel []
    if args.isEmpty then failAt "empty command"
    pure (.mk start.pos args)

/-- The commands of a pipeline up to the token that ends it. -/
def commandList : Nat → String → TokenKind → List Command → ParseM (List Command)
  | 0, _, _, _ => failAt "unexpected EOF"
  | fuel + 1, context, stop, commands => do
    let t ← nextNonSpace
    if t.kind = stop then pure commands
    else if startsOperand t.kind then
      backup
      let c ← command fuel
      commandList fuel context stop (commands ++ [c])
    else unexpected t context

/-- The declarations opening a pipeline: `$x :=` or `$x =`, and in `range` also `$i, $x :=`.
A variable not followed by one of these is left in place as an operand. -/
def declarations : Nat → String → List String → ParseM (List String × Bool)
  | 0, _, _ => failAt "unexpected EOF"
  | fuel + 1, context, decls => do
    let v ← peekNonSpace
    if v.kind ≠ .variable then return (decls, false)
    let start := (← get).next
    let _ ← advance
    let _ ← peek
    let after ← peekNonSpace
    if after.kind = .assign ∨ after.kind = .declare then
      let _ ← nextNonSpace
      declare v.text
      pure (decls ++ [v.text], after.kind = .assign)
    else if after.kind = .char ∧ after.text = "," then
      let _ ← nextNonSpace
      declare v.text
      let decls := decls ++ [v.text]
      if context = "range" ∧ decls.length < 2 then
        let k ← peekNonSpace
        if k.kind = .variable ∨ k.kind = .rightDelim ∨ k.kind = .rightParen then
          declarations fuel context decls
        else failAt "range can only initialize variables"
      else failAt ("too many declarations in " ++ context)
    else
      modify fun p => { p with next := start }
      pure (decls, false)

/-- A pipeline ending at `stop`. -/
def pipeline : Nat → String → TokenKind → ParseM Pipe
  | 0, _, _ => failAt "unexpected EOF"
  | fuel + 1, context, stop => do
    let first ← peekNonSpace
    let (decls, assign) ← declarations fuel context []
    let commands ← commandList fuel context stop []
    checkPipeline commands context
    pure (.mk first.pos first.line decls assign commands)

/-- Nodes up to the `end` or `else` that closes them. -/
def itemList : Nat → List Node → ParseM (List Node × Piece)
  | 0, _ => failAt "unexpected EOF"
  | fuel + 1, nodes => do
    let p ← peekNonSpace
    if p.kind = .eof then failAt "unexpected EOF"
    match ← textOrAction fuel with
    | .node n => itemList fuel (nodes ++ [n])
    | closing => pure (nodes, closing)

/-- Text, or an action. -/
def textOrAction : Nat → ParseM Piece
  | 0 => failAt "unexpected EOF"
  | fuel + 1 => do
    let t ← nextNonSpace
    match t.kind with
    | .text => pure (.node (.text t.pos t.text))
    | .leftDelim =>
      modify fun p => { p with actionLine := t.line }
      let r ← action fuel
      modify fun p => { p with actionLine := 0 }
      pure r
    | _ => unexpected t "input"

/-- The inside of an action: a keyword clause, or a pipeline whose value is printed. -/
def action : Nat → ParseM Piece
  | 0 => failAt "unexpected EOF"
  | fuel + 1 => do
    let t ← nextNonSpace
    match t.kind with
    | .keyword .blockWord => blockClause fuel
    | .keyword .breakWord | .keyword .continueWord =>
      let closing ← nextNonSpace
      let word := if t.kind = .keyword .breakWord then "break" else "continue"
      if closing.kind ≠ .rightDelim then unexpected closing (braced word)
      if (← get).rangeDepth = 0 then failAt (braced word ++ " outside " ++ braced "range")
      pure (.node (if t.kind = .keyword .breakWord then .breakLoop t.pos t.line
        else .continueLoop t.pos t.line))
    | .keyword .elseWord =>
      let p ← peekNonSpace
      if p.kind = .keyword .ifWord ∨ p.kind = .keyword .withWord then pure (.otherwise p.pos p.line)
      else
        let closing ← expect .rightDelim "else"
        pure (.otherwise closing.pos closing.line)
    | .keyword .endWord =>
      let closing ← expect .rightDelim "end"
      pure (.finish closing.pos closing.line)
    | .keyword .ifWord => branch fuel .ifBranch
    | .keyword .rangeWord => branch fuel .rangeBranch
    | .keyword .withWord => branch fuel .withBranch
    | .keyword .templateWord =>
      let nameToken ← nextNonSpace
      let name ← templateName nameToken "template clause"
      let n ← nextNonSpace
      if n.kind = .rightDelim then pure (.node (.call nameToken.pos nameToken.line name none))
      else
        backup
        let p ← pipeline fuel "template clause" .rightDelim
        pure (.node (.call nameToken.pos nameToken.line name (some p)))
    | _ =>
      backup
      let start ← peek
      let p ← pipeline fuel "command" .rightDelim
      pure (.node (.action start.pos start.line p))

/-- An `if`, `with` or `range` clause with its body and its `else` body; `else if` and `else
with` open a nested clause that shares the `end`. -/
def branch : Nat → BranchKind → ParseM Piece
  | 0, _ => failAt "unexpected EOF"
  | fuel + 1, kind => do
    let context := match kind with
      | .ifBranch => "if"
      | .withBranch => "with"
      | .rangeBranch => "range"
    let saved := (← get).vars
    let p ← pipeline fuel context .rightDelim
    if kind = .rangeBranch then modify fun q => { q with rangeDepth := q.rangeDepth + 1 }
    let (body, closing) ← itemList fuel []
    if kind = .rangeBranch then modify fun q => { q with rangeDepth := q.rangeDepth - 1 }
    let otherwise ← match closing with
      | .otherwise .. => do
        let next ← peek
        if kind = .ifBranch ∧ next.kind = .keyword .ifWord then
          let _ ← advance
          match ← branch fuel .ifBranch with
          | .node n => pure (some [n])
          | _ => pure (some [])
        else if kind = .withBranch ∧ next.kind = .keyword .withWord then
          let _ ← advance
          match ← branch fuel .withBranch with
          | .node n => pure (some [n])
          | _ => pure (some [])
        else
          let (nodes, last) ← itemList fuel []
          match last with
          | .finish .. => pure (some nodes)
          | _ => failAt ("expected end; found " ++ last.text)
      | _ => pure none
    modify fun q => { q with vars := saved }
    pure (.node (.branch kind p.pos (match p with | .mk _ line .. => line) p body otherwise))

/-- A `block` clause: it defines a template with its body and calls it. A body closed by
anything but `end` is refused on the line where the clause's action ends, the last place the
enclosing template read. -/
def blockClause : Nat → ParseM Piece
  | 0 => failAt "unexpected EOF"
  | fuel + 1 => do
    let nameToken ← nextNonSpace
    let name ← templateName nameToken "block clause"
    let p ← pipeline fuel "block clause" .rightDelim
    let q ← get
    let actionEnd := (q.tokenAt (q.next - 1)).line
    freshScope do
      let (root, closing) ← itemList fuel []
      match closing with
      | .finish .. => addTemplate name root
      | _ => failOnLine actionEnd ("unexpected " ++ closing.text ++ " in block clause")
    pure (.node (.call nameToken.pos nameToken.line name (some p)))

end

/-- A `define` clause after its keyword: the name, then the body up to its `end`. -/
def definition (fuel : Nat) : ParseM Unit :=
  freshScope do
    let t ← nextNonSpace
    if !(t.kind = .string ∨ t.kind = .rawString) then unexpected t "define clause"
    let name ← templateName t "define clause"
    let _ ← expect .rightDelim "define clause"
    let (root, closing) ← itemList fuel []
    match closing with
    | .finish .. => addTemplate name root
    | _ => failAt ("unexpected " ++ closing.text ++ " in define clause")

/-- The nodes of the template up to the end of its text; definitions are set aside. -/
def topLevel : Nat → List Node → ParseM (List Node)
  | 0, nodes => pure nodes
  | fuel + 1, nodes => do
    let p ← peek
    if p.kind = .eof then return nodes
    if p.kind = .leftDelim then
      let start := (← get).next
      let _ ← advance
      let k ← nextNonSpace
      if k.kind = .keyword .defineWord then
        definition fuel
        return ← topLevel fuel nodes
      modify fun q => { q with next := start }
    match ← textOrAction fuel with
    | .node n => topLevel fuel (nodes ++ [n])
    | closing => failAt ("unexpected " ++ closing.text)

/-- Parses a template named `name` that may call `functions` besides the built-in ones. -/
def Document.parse (name : String) (functions : List String) (text : String) :
    Except String Document :=
  let tokens := (scan text).toArray
  let fuel := 16 * (tokens.size + 2)
  let run : ParseM Document := do
    let root ← topLevel fuel []
    addTemplate name root
    let p ← get
    pure { name, source := text, root := (p.defined.lookup name).getD root, defined := p.defined }
  (run.run { name, functions, tokens }).map (·.1)

end StableWatch.Template
