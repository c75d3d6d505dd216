import StableWatch.Template.Parse
import StableWatch.Template.Function
/-!
# Rendering templates

`Document.render functions data` walks the nodes of a parsed template with the dot set to
`data` and writes what they print:

* text as it is, an action the value of its pipeline (unless the pipeline declares variables);
* `if` the body when the value of its pipeline is true and the `else` body otherwise, `with` the
  same with the dot set to that value;
* `range` over an integer `n` runs the body for `0 … n-1`, over the map for each entry in key
  order; no value, zero and the empty map run the `else` body; anything else is refused.
  `break` and `continue` end the run or the round;
* a call of a named template renders it with the value of its pipeline as the dot, to a depth of
  100000.

A pipeline runs its commands in turn, each taking the value of the one before as its last
argument. A command of field names reads them from the dot (a name the map lacks gives no
value, and reading on from no value gives no value); a function runs with its arguments checked
against what it takes; a constant is itself.

An error stops the rendering with
`template: NAME:LINE:COLUMN: executing "TEMPLATE" at <NODE>: MESSAGE`, where the node is the
one being evaluated, shown as text.
-/

namespace StableWatch.Template

/-- How walking a node ended: normally, or at a `break` or `continue`. -/
inductive Flow where
  | normal | stop | skip
  deriving DecidableEq, Repr, Inhabited

/-- The renderer's state: the document and the functions, the template being rendered, the
variables (innermost last), how deep template calls go, the output so far, and the node being
evaluated (its position and its text). -/
structure Renderer where
  doc : Document
  functions : List (String × Function)
  current : String
  vars : List (String × Value)
  depth : Nat := 0
  output : List UInt8 := []
  node : Option (Nat × String) := none

/-- Rendering steps. -/
abbrev RenderM := StateT Renderer (Except String)

/-- Notes the node being evaluated. -/
def visit (pos : Nat) (text : String) : RenderM Unit :=
  modify fun r => { r with node := some (pos, text) }

/-- Notes a term as the node being evaluated. -/
def visitTerm (t : Term) : RenderM Unit :=
  visit t.pos t.text

/-- Stops with a message placed at the node being evaluated. -/
def halt {α : Type} (message : String) : RenderM α := do
  let r ← get
  match r.node with
  | none => throw ("template: " ++ r.current ++ ": " ++ message)
  | some (pos, context) =>
    let (line, column) := location r.doc.source pos
    throw ("template: " ++ r.doc.name ++ ":" ++ toString line ++ ":" ++ toString column ++
      ": executing " ++ Text.quote r.current ++ " at <" ++ context ++ ">: " ++ message)

/-- The value of a variable, innermost first. -/
def lookupVar (name : String) : RenderM Value := do
  match (← get).vars.reverse.lookup name with
  | some v => pure v
  | none => halt ("undefined variable: " ++ name)

/-- Sets the innermost variable of a name. -/
def setVar (name : String) (v : Value) : RenderM Unit := do
  let r ← get
  if r.vars.any (·.1 = name) then
    let rec go : List (String × Value) → List (String × Value)
      | [] => []
      | (n, x) :: rest => if n = name then (n, v) :: rest else (n, x) :: go rest
    set { r with vars := (go r.vars.reverse).reverse }
  else halt ("undefined variable: " ++ name)

/-- Sets the variable `n` places from the innermost one. -/
def setTopVar (n : Nat) (v : Value) : RenderM Unit :=
  modify fun r =>
    let i := r.vars.length - n
    { r with vars := r.vars.set i ((r.vars.getD i ("", .missing)).1, v) }

/-- Drops the variables declared after a mark. -/
def popTo (mark : Nat) : RenderM Unit :=
  modify fun r => { r with vars := r.vars.take mark }

/-- Appends bytes to the output. -/
def write (bytes : List UInt8) : RenderM Unit :=
  modify fun r => { r with output := r.output ++ bytes }

/-- Checks a value given for an argument of a kind: no value is `nil` for any value and stays
no value as it is; text must be text. -/
def checkArg (v : Value) (p : Param) : RenderM Value :=
  match p, v with
  | .anything, .missing => pure .nil
  | .anything, _ | .reflected, _ => pure v
  | .text, .string _ => pure v
  | .text, .missing => halt "invalid value; expected string"
  | .text, _ => halt ("wrong type for value; expected string; got " ++ v.typeName)

/-- Refuses arguments given to something that is not a function. -/
def notAFunction (args : List Term) (final : Option Value) : RenderM Unit := do
  if args.length > 1 ∨ final.isSome then
    halt ("can't give argument to non-function " ++ ((args.head?.map Term.argText).getD ""))

/-- Reads a field from a value: the map gives the text under the name (or no value), no value
gives no value. -/
def readField (name : String) (hasArgs : Bool) (receiver : Value) : RenderM Value :=
  match receiver with
  | .missing => pure .missing
  | .map entries =>
    if hasArgs then halt (name ++ " is not a method but has arguments")
    else pure (match entries.lookup name with | some v => Value.ofString v | none => .missing)
  | v => halt ("can't evaluate field " ++ name ++ " in type " ++ v.typeName)

/-- Reads field names in turn; only the last one sees the arguments. -/
def readFields (receiver : Value) (names : List String) (args : List Term)
    (final : Option Value) : RenderM Value :=
  match names with
  | [] => pure receiver
  | [last] => readField last (args.length > 1 ∨ final.isSome) receiver
  | name :: rest => do
    let v ← readField name false receiver
    readFields v rest args final

/-- The value of a constant standing as a command. -/
def constantValue (t : Term) (dot : Value) : RenderM Value :=
  match t with
  | .bool _ b => pure (.bool b)
  | .dot _ => pure dot
  | .nil _ => halt "nil is not a command"
  | .number _ text c =>
    match c.value text with
    | .ok v => pure v
    | .error e => halt e
  | .string _ _ s => pure (.string s)
  | _ => halt ("can't evaluate command " ++ Text.quote t.text)

/-- The value of a constant given for an argument of a kind. -/
def constantArg (t : Term) (p : Param) : RenderM Value :=
  match p with
  | .text =>
    match t with
    | .string _ _ s => pure (.string s)
    | _ => halt ("expected string; found " ++ t.text)
  | _ =>
    match t with
    | .bool _ b => pure (.bool b)
    | .number _ text c =>
      match c.value text with
      | .ok v => pure v
      | .error e => halt e
    | .string _ _ s => pure (.string s)
    | _ => halt ("can't handle " ++ t.text ++ " for arg of type " ++ p.typeName)

mutual

/-- The value of a pipeline, whose variables are then declared or assigned. -/
def evalPipe : Nat → Value → Pipe → RenderM Value
  | 0, _, _ => halt "exceeded maximum template depth (100000)"
  | fuel + 1, dot, p => do
    visit p.pos p.text
    let v ← evalCommands fuel dot p.commands none
    for name in p.decls do
      if p.assign then setVar name v
      else modify fun r => { r with vars := r.vars ++ [(name, v)] }
    pure v

/-- The commands of a pipeline in turn, each given the value of the one before. -/
def evalCommands : Nat → Value → List Command → Option Value → RenderM Value
  | 0, _, _, _ => halt "exceeded maximum template depth (100000)"
  | _ + 1, _, [], final => pure (final.getD .missing)
  | fuel + 1, dot, c :: rest, final => do
    let v ← evalCommand fuel dot c final
    evalCommands fuel dot rest (some v)

/-- The value of a command; `final` is the value of the command before it, if any. -/
def evalCommand : Nat → Value → Command → Option Value → RenderM Value
  | 0, _, _, _ => halt "exceeded maximum template depth (100000)"
  | fuel + 1, dot, c, final => do
    match c.args with
    | [] => halt "empty command"
    | first :: rest =>
      match first with
      | .field .. => evalField fuel dot first c.args final
      | .chain .. => evalChain fuel dot first c.args final
      | .identifier pos name => callFunction fuel dot name (pos, name) (c.pos, c.text) rest final
      | .pipe p => do
        notAFunction c.args final
        evalPipe fuel dot p
      | .variable .. => evalVariable fuel dot first c.args final
      | _ => do
        visitTerm first
        notAFunction c.args final
        constantValue first dot

/-- Field names read from the dot. -/
def evalField : Nat → Value → Term → List Term → Option Value → RenderM Value
  | 0, _, _, _, _ => halt "exceeded maximum template depth (100000)"
  | _ + 1, dot, t, args, final => do
    visitTerm t
    match t with
    | .field _ names => readFields dot names args final
    | _ => pure .missing

/-- A variable, and field names read from it. -/
def evalVariable : Nat → Value → Term → List Term → Option Value → RenderM Value
  | 0, _, _, _, _ => halt "exceeded maximum template depth (100000)"
  | _ + 1, _, t, args, final => do
    visitTerm t
    match t with
    | .variable _ (name :: fields) => do
      let v ← lookupVar name
      if fields.isEmpty then
        notAFunction args final
        pure v
      else readFields v fields args final
    | _ => pure .missing

/-- Field names read from the value of a term. -/
def evalChain : Nat → Value → Term → List Term → Option Value → RenderM Value
  | 0, _, _, _, _ => halt "exceeded maximum template depth (100000)"
  | fuel + 1, dot, t, args, final => do
    visitTerm t
    match t with
    | .chain _ head names => do
      if let .nil _ := head then halt ("indirection through explicit nil in " ++ t.text)
      let v ← evalArg fuel dot none head
      readFields v names args final
    | _ => pure .missing

/-- The value of an argument, checked against the kind the function takes (none: taken as it
is). -/
def evalArg : Nat → Value → Option Param → Term → RenderM Value
  | 0, _, _, _ => halt "exceeded maximum template depth (100000)"
  | fuel + 1, dot, p, t => do
    visitTerm t
    let check (v : Value) : RenderM Value := match p with
      | some p => checkArg v p
      | none => pure v
    match t with
    | .dot _ => check dot
    | .nil _ =>
      match p with
      | some .text => halt "cannot assign nil to string"
      | some .anything => pure .nil
      | _ => pure .missing
    | .field .. => do check (← evalField fuel dot t [t] none)
    | .variable .. => do check (← evalVariable fuel dot t [] none)
    | .pipe pipe => do check (← evalPipe fuel dot pipe)
    | .identifier _ name => do
      check (← callFunction fuel dot name (t.pos, t.text) (t.pos, t.text) [] none)
    | .chain .. => do check (← evalChain fuel dot t [] none)
    | _ => constantArg t (p.getD .reflected)

/-- Evaluates arguments against the kinds a function takes. -/
def evalArgs : Nat → Value → List Param → Option Param → List Term → RenderM (List Value)
  | 0, _, _, _, _ => halt "exceeded maximum template depth (100000)"
  | _ + 1, _, _, _, [] => pure []
  | fuel + 1, dot, kinds, variadic, t :: rest => do
    let kind := kinds.head?.getD (variadic.getD .anything)
    let v ← evalArg fuel dot (some kind) t
    let vs ← evalArgs fuel dot (kinds.drop 1) variadic rest
    pure (v :: vs)

/-- `and` or `or`: whether an argument decided (true for `or`, false for `and`), and the
argument that did or the last one. -/
def decideBy : Nat → Value → Bool → List Term → Value → RenderM (Bool × Value)
  | 0, _, _, _, _ => halt "exceeded maximum template depth (100000)"
  | _ + 1, _, _, [], last => pure (false, last)
  | fuel + 1, dot, isOr, t :: rest, _ => do
    let v ← evalArg fuel dot (some .reflected) t
    if v.truth = isOr then pure (true, v) else decideBy fuel dot isOr rest v

/-- Calls a function with its argument terms and the value before it; `ident` is the name as
written and `node` the command or term that calls it. -/
def callFunction : Nat → Value → String → Nat × String → Nat × String → List Term →
    Option Value → RenderM Value
  | 0, _, _, _, _, _, _ => halt "exceeded maximum template depth (100000)"
  | fuel + 1, dot, name, ident, node, args, final => do
    visit ident.1 ident.2
    let r ← get
    let f ← match r.functions.lookup name with
      | some f => pure f
      | none => halt (Text.quote name ++ " is not a defined function")
    let count := args.length + (if final.isSome then 1 else 0)
    match f.variadic with
    | some _ =>
      if count < f.fixed.length then
        halt ("wrong number of args for " ++ name ++ ": want at least " ++
          toString f.fixed.length ++ " got " ++ toString args.length)
    | none =>
      if count ≠ f.fixed.length then
        halt ("wrong number of args for " ++ name ++ ": want " ++ toString f.fixed.length ++
          " got " ++ toString count)
    if name = "and" ∨ name = "or" then
      let (decided, v) ← decideBy fuel dot (name = "or") args .missing
      if decided then pure v
      else
        match final with
        | some w => pure w
        | none => pure v
    else
      let values ← evalArgs fuel dot f.fixed f.variadic args
      let values ← match final with
        | none => pure values
        | some v =>
          let kind := if args.length < f.fixed.length then f.fixed.getD args.length .anything
            else f.variadic.getD (f.fixed.getLast?.getD .anything)
          pure (values ++ [← checkArg v kind])
      let values := if name = "call" then
          Value.ofString (match args.head? with
            | some t => t.text
            | none => (final.map Value.calleeName).getD "") :: values
        else values
      match f.apply values with
      | .ok v => pure v
      | .error e => do
        visit node.1 node.2
        halt ("error calling " ++ name ++ ": " ++ e)

end

/-- The text of a node as messages show it. -/
def Node.shown : Node → String
  | .text _ content => content
  | .action _ _ p => braced p.text
  | .call _ _ name none => braced ("template " ++ Text.quote name)
  | .call _ _ name (some p) => braced ("template " ++ Text.quote name ++ " " ++ p.text)
  | .breakLoop .. => braced "break"
  | .continueLoop .. => braced "continue"
  | .branch kind _ _ p _ _ =>
    braced ((match kind with
      | .ifBranch => "if "
      | .withBranch => "with "
      | .rangeBranch => "range ") ++ p.text)

mutual

/-- Walks a node. -/
def walk : Nat → Value → Node → RenderM Flow
  | 0, _, _ => halt "exceeded maximum template depth (100000)"
  | fuel + 1, dot, node => do
    visit node.pos node.shown
    match node with
    | .text _ content => do write (bytesOf content); pure .normal
    | .action _ _ p => do
      let v ← evalPipe fuel dot p
      if p.decls.isEmpty then
        visit node.pos node.shown
        write v.bytes
      pure .normal
    | .breakLoop .. => pure .stop
    | .continueLoop .. => pure .skip
    | .branch .rangeBranch _ _ p body otherwise => walkRange fuel dot p body otherwise
    | .branch kind _ _ p body otherwise => do
      let mark := (← get).vars.length
      let v ← evalPipe fuel dot p
      let flow ← if v.truth then walkList fuel (if kind = .withBranch then v else dot) body
        else match otherwise with
          | some nodes => walkList fuel dot nodes
          | none => pure .normal
      popTo mark
      pure flow
    | .call _ _ name p => do
      let r ← get
      match r.doc.defined.lookup name with
      | none => halt ("template " ++ Text.quote name ++ " not defined")
      | some root =>
        if r.depth = 100000 then halt "exceeded maximum template depth (100000)"
        let newDot ← match p with
          | some pipe => evalPipe fuel dot pipe
          | none => pure .missing
        let saved ← get
        set { saved with current := name, vars := [("$", newDot)], depth := saved.depth + 1 }
        let _ ← walkList fuel newDot root
        modify fun q => { q with current := saved.current, vars := saved.vars, depth := saved.depth }
        pure .normal

/-- Walks nodes in turn, stopping at a `break` or `continue`. -/
def walkList : Nat → Value → List Node → RenderM Flow
  | 0, _, _ => halt "exceeded maximum template depth (100000)"
  | _ + 1, _, [] => pure .normal
  | fuel + 1, dot, n :: rest => do
    let flow ← walk fuel dot n
    if flow = .normal then walkList fuel dot rest else pure flow

/-- Runs the body of a `range` for each element, with its variables set. -/
def walkRounds : Nat → Pipe → List Node → List (Value × Value) → RenderM Unit
  | 0, _, _, _ => halt "exceeded maximum template depth (100000)"
  | _ + 1, _, _, [] => pure ()
  | fuel + 1, p, body, (index, elem) :: rest => do
    let mark := (← get).vars.length
    match p.decls with
    | [] => pure ()
    | [name] => if p.assign then setVar name elem else setTopVar 1 elem
    | first :: second :: _ =>
      if p.assign then do setVar first index; setVar second elem
      else do setTopVar 1 elem; setTopVar 2 index
    let flow ← walkList fuel elem body
    popTo mark
    if flow = .stop then pure () else walkRounds fuel p body rest

/-- Walks a `range`. -/
def walkRange : Nat → Value → Pipe → List Node → Option (List Node) → RenderM Flow
  | 0, _, _, _, _ => halt "exceeded maximum template depth (100000)"
  | fuel + 1, dot, p, body, otherwise => do
    let mark := (← get).vars.length
    let v ← evalPipe fuel dot p
    let rounds ← match v with
      | .int n =>
        if p.decls.length > 1 then
          halt ("can't use " ++ v.text ++ " to iterate over more than one variable")
        else pure ((List.range n.toNat).map fun (i : Nat) => (Value.missing, Value.int (Int.ofNat i)))
      | .byte b =>
        if p.decls.length > 1 then
          halt ("can't use " ++ v.text ++ " to iterate over more than one variable")
        else pure ((List.range b.toNat).map fun (i : Nat) => (Value.missing, Value.byte i.toUInt8))
      | .map entries => pure (entries.map fun (k, x) => (Value.ofString k, Value.ofString x))
      | .missing | .nil => pure []
      | _ => halt ("range can't iterate over " ++ v.text)
    if rounds.isEmpty then
      match otherwise with
      | some nodes => do
        let _ ← walkList fuel dot nodes
        pure ()
      | none => pure ()
    else walkRounds fuel p body rounds
    popTo mark
    pure .normal

end

/-- Renders a parsed template with the functions given besides the built-in ones and the data
as the dot. -/
def Document.render (doc : Document) (functions : List (String × Function)) (data : Value) :
    Except String (List UInt8) :=
  let renderer : Renderer :=
    { doc, functions := functions ++ builtins, current := doc.name, vars := [("$", data)] }
  let fuel := 100000 * (doc.source.length + 2) + 1000
  ((walkList fuel data doc.root).run renderer).map (·.2.output)

end StableWatch.Template
