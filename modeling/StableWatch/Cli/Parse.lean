import StableWatch.Cli.Command
/-!
# Reading the command line

The words of a command line name a command and give flags and plain words, in any order.

**Finding the command.** The words that are neither flags nor the values of flags are found
with the program's flags: `--` ends them; a long flag without `=` that is not a switch, and a
lone one-letter ASCII flag that is not a switch, take the next word as their value (when nothing or
only one word follows, the search stops); other words starting with `-` are flags. The first
remaining word names the command, which is then taken out of the line; when it names none, the
line fails with `unknown command "X" for "hierwatch"`, followed by the commands it may have
meant: those, not hidden and not `help`, whose name is at most two edits away from it or starts
with it, ignoring case.

**Reading the flags.** The rest of the line is read with the flags the command takes:

* `--` makes every later word plain; an empty word, a lone `-` and a word not starting with
  `-` are plain;
* `--name=value`, or `--name value` for a flag taking a text; a switch alone is on;
* `-abc` sets the one-letter switches `a`, `b`, `c` in turn; a letter taking a text takes the
  rest of the word, or the next word, as its value; `-a=value` gives the value after `=`;
* a switch's value must be a truth value (`1`, `t`, `T`, `TRUE`, `true`, `True` and their
  negations with `0` and `f`).

The errors are those of the flag reader: `bad flag syntax`, `unknown flag`, `unknown shorthand
flag`, `flag needs an argument` and `invalid argument`.
-/

namespace StableWatch

namespace Cli

/-- What a command line asks for: the command (none for the program itself), the values given
to flags by name, in order, and the plain words. -/
structure Invocation where
  command : Option Command
  values : List (String × String) := []
  args : List String := []
  deriving DecidableEq, Repr

/-- The last value given to a flag. -/
def Invocation.value? (i : Invocation) (name : String) : Option String :=
  (i.values.reverse.find? (·.1 = name)).map (·.2)

/-- Whether a switch is on. -/
def Invocation.switch (i : Invocation) (name : String) : Bool :=
  i.value? name = some "true"

/-- Whether a long spelling names a switch among the flags. -/
def isSwitch (flags : List Flag) (name : String) : Bool :=
  flags.any fun f => f.name = name ∧ !f.takesText

/-- Whether a letter names a switch among the flags. -/
def isShortSwitch (flags : List Flag) (c : Char) : Bool :=
  flags.any fun f => f.short = some c ∧ !f.takesText

/-- A word is a flag that takes the next word as its value. -/
def takesNext (flags : List Flag) (word : String) : Bool :=
  let cs := word.toList
  !cs.contains '=' &&
    (match cs with
      | '-' :: '-' :: name => !isSwitch flags (String.ofList name)
      | ['-', c] => c.toNat < 0x80 && !isShortSwitch flags c
      | _ => false)

/-- The words that are neither flags nor values of flags, where `value` says the first word is
the value of the flag before it. A flag whose value is the last word ends the search. -/
def wordsAfter (flags : List Flag) (value : Bool) : List String → List String
  | [] => []
  | word :: rest =>
    if value then wordsAfter flags false rest
    else if word = "--" then []
    else if takesNext flags word then
      (if rest.length ≥ 2 then wordsAfter flags true rest else [])
    else if word != "" && !word.startsWith "-" then word :: wordsAfter flags false rest
    else wordsAfter flags false rest

/-- The words that are neither flags nor values of flags. -/
def words (flags : List Flag) (line : List String) : List String :=
  wordsAfter flags false line

/-- The line without the first plain word equal to `x`. -/
def withoutWord (flags : List Flag) (x : String) : List String → List String
  | [] => []
  | word :: rest =>
    if word = "--" then word :: rest
    else if takesNext flags word then
      match rest with
      | [] => [word]
      | value :: more => word :: value :: withoutWord flags x more
    else if !word.startsWith "-" ∧ word = x then rest
    else word :: withoutWord flags x rest

/-- The edit distance of two lists of letters. -/
def editDistance (a b : List Char) : Nat :=
  let first := List.range (b.length + 1)
  let last := a.foldl (fun (prev : List Nat) (x : Char) =>
    let start := prev.head?.getD 0 + 1
    let row := (b.zip ((prev.zip prev.tail).zip (List.range b.length))).foldl
      (fun (row : List Nat) entry =>
        let (y, (diagonal, above), _) := entry
        let left := row.getLast?.getD start
        row ++ [min (min (above + 1) (left + 1)) (diagonal + if x = y then 0 else 1)]) [start]
    row) first
  last.getLast?.getD 0

/-- The commands a mistyped word may have meant. -/
def suggestions (word : String) : List String :=
  let typed := word.toLower
  (commands.filter fun c => !c.hidden ∧ c.name ≠ "help").filterMap fun c =>
    if editDistance typed.toList c.name.toList ≤ 2 ∨ typed.toList.isPrefixOf c.name.toList then
      some c.name
    else none

/-- The refusal of a word that names no command. -/
def unknownCommand (word : String) : String :=
  "unknown command " ++ Text.quote word ++ " for " ++ Text.quote programName ++
    match suggestions word with
    | [] => ""
    | names => "\n\nDid you mean this?\n" ++ String.join (names.map fun n => "\t" ++ n ++ "\n")

/-- The command a line names among the `available` ones, and the line without its name. -/
def findCommandAmong (available : List Command) (env : Environment) (line : List String) :
    Except String (Option Command × List String) :=
  let flags := allFlags env none
  match words flags line with
  | [] => .ok (none, line)
  | word :: _ =>
    match available.find? (·.answersTo word) with
    | some c => .ok (some c, withoutWord flags word line)
    | none => .error (unknownCommand word)

/-- The command a line names, and the line without its name. -/
def findCommand (env : Environment) (line : List String) :
    Except String (Option Command × List String) :=
  findCommandAmong commands env line

/-- The truth value a text names. -/
def truthValue (text : String) : Option Bool :=
  if ["1", "t", "T", "TRUE", "true", "True"].contains text then some true
  else if ["0", "f", "F", "FALSE", "false", "False"].contains text then some false
  else none

/-- The flag's name as a refusal quotes it. -/
def Flag.display (f : Flag) : String :=
  match f.short with
  | some c => "-" ++ c.toString ++ ", --" ++ f.name
  | none => "--" ++ f.name

/-- Checks a value given to a flag; a switch's value becomes `true` or `false`. -/
def checkValue (f : Flag) (value : String) : Except String (String × String) :=
  if f.takesText then .ok (f.name, value)
  else
    match truthValue value with
    | some b => .ok (f.name, if b then "true" else "false")
    | none =>
      .error ("invalid argument " ++ Text.quote value ++ " for " ++ Text.quote f.display ++
        " flag: strconv.ParseBool: parsing " ++ Text.quote value ++ ": invalid syntax")

/-- A letter as a refusal quotes it: its first byte read as a character, quoted and escaped as a
character literal (a letter past ASCII shows the character of its lead byte). -/
def quoteLetter (c : Char) : String :=
  Text.quoteChar (Char.ofNat (c.toString.toUTF8.toList.headD 0).toNat) false

/-- Reads a cluster of one-letter flags; `rest` is the line after the cluster. Gives the values
set and the rest of the line. -/
def readLetters (flags : List Flag) (rest : List String) :
    List Char → Except String (List (String × String) × List String)
  | [] => .ok ([], rest)
  | c :: more =>
    let shown := "-" ++ String.ofList (c :: more)
    match flags.find? (·.short = some c) with
    | none => .error ("unknown shorthand flag: " ++ quoteLetter c ++ " in " ++ shown)
    | some f =>
      match more with
      | '=' :: value@(_ :: _) => (checkValue f (String.ofList value)).map fun v => ([v], rest)
      | _ =>
        if !f.takesText then do
          let v ← checkValue f "true"
          let (vs, rest) ← readLetters flags rest more
          return (v :: vs, rest)
        else if !more.isEmpty then (checkValue f (String.ofList more)).map fun v => ([v], rest)
        else
          match rest with
          | value :: after => (checkValue f value).map fun v => ([v], after)
          | [] => .error ("flag needs an argument: " ++ quoteLetter c ++ " in " ++ shown)

/-- Reads a long flag; `rest` is the line after it. -/
def readLong (flags : List Flag) (word : String) (body : List Char) (rest : List String) :
    Except String ((String × String) × List String) :=
  match body with
  | [] | '-' :: _ | '=' :: _ => .error ("bad flag syntax: " ++ word)
  | _ =>
    let name := String.ofList (body.takeWhile (· ≠ '='))
    let given := body.dropWhile (· ≠ '=')
    match flags.find? (·.name = name) with
    | none => .error ("unknown flag: --" ++ name)
    | some f =>
      match given with
      | _ :: value => (checkValue f (String.ofList value)).map fun v => (v, rest)
      | [] =>
        if !f.takesText then (checkValue f "true").map fun v => (v, rest)
        else
          match rest with
          | value :: after => (checkValue f value).map fun v => (v, after)
          | [] => .error ("flag needs an argument: " ++ word)

/-- Reads the flags of a line, within `fuel` words; gives the values set and the plain words. -/
def readFlags (flags : List Flag) : Nat → List String →
    Except String (List (String × String) × List String)
  | 0, _ => .ok ([], [])
  | _ + 1, [] => .ok ([], [])
  | fuel + 1, word :: rest =>
    match word.toList with
    | ['-', '-'] => .ok ([], rest)
    | '-' :: '-' :: body => do
      let (v, rest) ← readLong flags word body rest
      let (vs, plain) ← readFlags flags fuel rest
      return (v :: vs, plain)
    | '-' :: c :: more => do
      let (vs, rest) ← readLetters flags rest (c :: more)
      let (ws, plain) ← readFlags flags fuel rest
      return (vs ++ ws, plain)
    | _ => do
      let (vs, plain) ← readFlags flags fuel rest
      return (vs, word :: plain)

/-- Reads a whole command line. -/
def parse (env : Environment) (line : List String) : Except String Invocation := do
  let (command, rest) ← findCommand env line
  let (values, args) ← readFlags (allFlags env command) (rest.length + 1) rest
  return { command, values, args }

end Cli

end StableWatch
