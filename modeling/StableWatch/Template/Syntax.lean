import StableWatch.Number.Binary64
import StableWatch.Template.Token
/-!
# Template syntax

A parsed template is a list of nodes: text, actions that print the value of a pipeline, the
branches `if`, `with` and `range` with their bodies and optional `else` bodies, calls of named
templates, and `break` and `continue` inside `range`.

A pipeline declares or assigns variables, then chains commands with `|`: the value of each
command is the last argument of the next. A command is a list of terms: a function name,
the dot, `nil`, a variable or field path, a constant, a chain of fields after a term, or a
parenthesized pipeline.

Every node keeps the byte offset it starts at, which error messages turn into a line and a
column, and prints back as text (`Term.text`), which error messages quote.
-/

namespace StableWatch.Template

/-- A numeric constant: an integer that fits in 64 signed bits, one that fits only in 64 unsigned
bits, a double, or a complex number with double parts. -/
inductive Constant where
  | int (n : Int)
  | unsigned (n : Nat)
  | float (x : Binary64)
  | complex (re im : Binary64)
  deriving DecidableEq, Repr, Inhabited

mutual
/-- An operand of a command. -/
inductive Term where
  | identifier (pos : Nat) (name : String)
  | dot (pos : Nat)
  | nil (pos : Nat)
  /-- A variable followed by field names. -/
  | variable (pos : Nat) (names : List String)
  /-- Field names, read from the dot. -/
  | field (pos : Nat) (names : List String)
  | bool (pos : Nat) (value : Bool)
  | number (pos : Nat) (text : String) (value : Constant)
  /-- A quoted string as written, and the bytes it stands for. -/
  | string (pos : Nat) (quoted : String) (value : List UInt8)
  /-- Field names read from the value of a term. -/
  | chain (pos : Nat) (head : Term) (names : List String)
  | pipe (p : Pipe)
/-- A pipeline: the variables it declares (or assigns, when `assign`) and its commands. -/
inductive Pipe where
  | mk (pos line : Nat) (decls : List String) (assign : Bool) (commands : List Command)
/-- A command: its terms, the first of which names what is run. -/
inductive Command where
  | mk (pos : Nat) (args : List Term)
end

/-- The kinds of branch. -/
inductive BranchKind where
  | ifBranch | withBranch | rangeBranch
  deriving DecidableEq, Repr, Inhabited

/-- A node of a template. -/
inductive Node where
  | text (pos : Nat) (content : String)
  | action (pos line : Nat) (pipe : Pipe)
  | branch (kind : BranchKind) (pos line : Nat) (pipe : Pipe) (body : List Node)
      (otherwise : Option (List Node))
  /-- A call of a named template, with the pipeline that gives its dot. -/
  | call (pos line : Nat) (name : String) (pipe : Option Pipe)
  | breakLoop (pos line : Nat)
  | continueLoop (pos line : Nat)

namespace Pipe

/-- Where the pipeline starts. -/
def pos : Pipe → Nat
  | .mk pos .. => pos

/-- The variables the pipeline declares or assigns. -/
def decls : Pipe → List String
  | .mk _ _ decls .. => decls

/-- Whether the pipeline assigns its variables rather than declaring them. -/
def assign : Pipe → Bool
  | .mk _ _ _ assign _ => assign

/-- The commands of the pipeline. -/
def commands : Pipe → List Command
  | .mk _ _ _ _ commands => commands

end Pipe

/-- The position of a command. -/
def Command.pos : Command → Nat
  | .mk pos _ => pos

/-- The terms of a command. -/
def Command.args : Command → List Term
  | .mk _ args => args

/-- The position of a term. -/
def Term.pos : Term → Nat
  | .identifier p _ | .dot p | .nil p | .variable p _ | .field p _ | .bool p _ | .number p _ _
  | .string p _ _ | .chain p _ _ => p
  | .pipe p => p.pos

/-- Field names written after a term. -/
def fieldSuffix (names : List String) : String :=
  String.join (names.map ("." ++ ·))

mutual
/-- A term as text. -/
def Term.text : Term → String
  | .identifier _ name => name
  | .dot _ => "."
  | .nil _ => "nil"
  | .variable _ names => ".".intercalate names
  | .field _ names => fieldSuffix names
  | .bool _ b => if b then "true" else "false"
  | .number _ text _ => text
  | .string _ quoted _ => quoted
  | .chain _ head names => head.argText ++ fieldSuffix names
  | .pipe p => p.text
/-- A term as text where it stands as an argument: a pipeline is parenthesized. -/
def Term.argText : Term → String
  | .pipe p => "(" ++ p.text ++ ")"
  | t => t.text
/-- A pipeline as text. -/
def Pipe.text : Pipe → String
  | .mk _ _ decls assign commands =>
    (if decls.isEmpty then "" else ", ".intercalate decls ++ (if assign then " = " else " := ")) ++
      " | ".intercalate (Command.texts commands)
/-- Commands as text. -/
def Command.texts : List Command → List String
  | [] => []
  | c :: cs => c.text :: Command.texts cs
/-- A command as text. -/
def Command.text : Command → String
  | .mk _ args => " ".intercalate (Term.argTexts args)
/-- Arguments as text. -/
def Term.argTexts : List Term → List String
  | [] => []
  | t :: ts => t.argText :: Term.argTexts ts
end

/-- The position of a node. -/
def Node.pos : Node → Nat
  | .text p _ | .action p _ _ | .branch _ p _ _ _ _ | .call p _ _ _ | .breakLoop p _
  | .continueLoop p _ => p

/-- White space in the sense of Unicode: the ASCII blanks with vertical tab and form feed, the
next-line control, and the space separators. -/
def isWhiteSpace (c : Char) : Bool :=
  let n := c.toNat
  (0x09 ≤ n && n ≤ 0x0D) || n = 0x20 || n = 0x85 || n = 0xA0 || n = 0x1680 ||
    (0x2000 ≤ n && n ≤ 0x200A) || n = 0x2028 || n = 0x2029 || n = 0x202F || n = 0x205F ||
    n = 0x3000

/-- Whether a node prints nothing but white space. -/
def Node.isBlank : Node → Bool
  | .text _ content => content.toList.all isWhiteSpace
  | _ => false

/-- Whether a list of nodes prints nothing but blanks. -/
def blankNodes (nodes : List Node) : Bool :=
  nodes.all Node.isBlank

/-- A parsed template: its name, its text, its nodes, and the templates it defines by name. -/
structure Document where
  name : String
  source : String
  root : List Node
  defined : List (String × List Node) := []

/-- The line and column of a byte offset in a text: lines count from one, the column is the
offset on the first line and the offset from the line's start after it. -/
def location (source : String) (pos : Nat) : Nat × Nat :=
  let rec go : List Char → Nat → Nat → Nat → Nat × Nat
    | [], _, line, lineStart => (line, lineStart)
    | c :: rest, offset, line, lineStart =>
      if offset ≥ pos then (line, lineStart)
      else
        let next := offset + c.utf8Size
        if c = '\n' then go rest next (line + 1) next else go rest next line lineStart
  let (line, lineStart) := go source.toList 0 1 0
  (line, pos - lineStart)

end StableWatch.Template
