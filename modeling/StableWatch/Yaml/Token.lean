/-!
# YAML tokens and syntax errors

A YAML text is read in three steps: characters become tokens (`Yaml.Scanner`), tokens become a
tree of nodes (`Yaml.Compose`), and the tree is decoded into the values a program wants. This
module holds what the first two steps share: positions in the text, tokens, and the errors that
stop reading.

A position (`Mark`) counts characters from the start of the text and lines and columns from zero.

A syntax error names what went wrong and where. Its message reads `yaml: line N: problem`, where
the line is the line of the error's context if that is not the first line, else the line of the
problem itself, else it is left out. A scanner error counts lines from one; a parser error counts
them from zero, so it names the line before the one it means.
-/

namespace StableWatch.Yaml

/-- A position in the text: characters from the start, and the line and column, from zero. -/
structure Mark where
  index : Nat := 0
  line : Nat := 0
  column : Nat := 0
  deriving DecidableEq, Repr, Inhabited

/-- How a scalar was written. -/
inductive ScalarStyle where
  | plain
  | singleQuoted
  | doubleQuoted
  | literal
  | folded
  deriving DecidableEq, Repr, Inhabited

/-- What a token is. -/
inductive TokenKind where
  | streamStart
  | streamEnd
  | versionDirective (major minor : Nat)
  | tagDirective (handle pfx : String)
  | documentStart
  | documentEnd
  | blockSequenceStart
  | blockMappingStart
  | blockEnd
  | flowSequenceStart
  | flowSequenceEnd
  | flowMappingStart
  | flowMappingEnd
  | blockEntry
  | flowEntry
  | key
  | value
  | alias (name : String)
  | anchor (name : String)
  | tag (handle suffix : String)
  | scalar (text : String) (style : ScalarStyle)
  deriving DecidableEq, Repr, Inhabited

/-- A token with the positions where it starts and ends. -/
structure Token where
  kind : TokenKind
  start : Mark
  stop : Mark
  deriving DecidableEq, Repr, Inhabited

/-- Which step found a syntax error. -/
inductive Stage where
  /-- The text holds a character YAML does not allow. -/
  | reader
  | scanner
  | parser
  /-- Building the tree failed, for an alias to an unknown anchor. -/
  | composer
  deriving DecidableEq, Repr

/-- An error that stops reading a YAML text. -/
structure SyntaxError where
  stage : Stage
  context : String := ""
  contextMark : Mark := {}
  problem : String
  problemMark : Mark := {}
  deriving DecidableEq, Repr

/-- The line a syntax error names, or zero for none. -/
def SyntaxError.line (e : SyntaxError) : Nat :=
  let shift := if e.stage = .scanner then 1 else 0
  if e.contextMark.line ≠ 0 then e.contextMark.line + shift
  else if e.problemMark.line ≠ 0 then e.problemMark.line + shift
  else 0

/-- The message of a syntax error. -/
def SyntaxError.message (e : SyntaxError) : String :=
  match e.stage with
  | .reader | .composer => "yaml: " ++ e.problem
  | _ =>
    "yaml: " ++ (if e.line = 0 then "" else "line " ++ toString e.line ++ ": ") ++ e.problem

end StableWatch.Yaml
