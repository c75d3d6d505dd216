import StableWatch.Cli.Parse
/-!
# Completion requests

A shell asks what may come next on a command line with the hidden request `__complete`
(`__completeNoDesc` for names without descriptions), followed by the words typed so far, the
last one being the word under the cursor, possibly empty.

`Cli.complete` answers with one candidate per line and then `:D`, where `D` tells the shell what
to do besides: `0` by default, `4` when no file names should be offered. A candidate is a name,
then a tab and its description unless descriptions are off (the variable
`HIERWATCH_COMPLETION_DESCRIPTIONS` set to a false truth value also turns them off).

* The words before the last one name a command; when they name none, nothing is offered.
* When the word before the last is a flag that takes a value, the value is what is being
  completed: no flag has candidates for its value, so nothing is offered.
* A last word starting with `-` is a flag's name: every flag not given yet whose long (`--name`)
  or short (`-n`) spelling starts with it, the inherited flags first, each list in the order of
  the flags' names; files are not offered.
* Otherwise, with no plain words yet, the command's subcommands that are listed (and `help`)
  whose names start with the last word; `help` offers the subcommands of the command its words
  name.

The words must read as flags of the command; a line naming `--help` (or `--version` on the
program) offers nothing.

While a request runs, the request itself is a hidden command (`__complete`, also called
`__completeNoDesc`) that reads no flags. When the words before the last name it, a last word
starting with `-` (without `=`) is offered every flag's names, and any other word nothing.
-/

namespace StableWatch

namespace Cli

/-- Whether a word of a completion request is a flag the request names completely: `--x…` with
at least one letter, or `-x…`. -/
def isFlagWord (word : String) : Bool :=
  match word.toList with
  | '-' :: '-' :: _ :: _ => true
  | '-' :: c :: _ => c ≠ '-'
  | _ => false

/-- The flag a name stands for among a command's flags: a single letter is a short spelling. -/
def flagNamed (flags : List Flag) (name : String) : Option Flag :=
  match name.toList with
  | [c] => flags.find? (·.short = some c)
  | _ => flags.find? (·.name = name)

/-- The name a flag word gives: after `--`, or else its last letter. -/
def flagNameOf (word : List Char) : String :=
  match word with
  | '-' :: '-' :: name => String.ofList name
  | _ => (word.getLast?.map Char.toString).getD ""

/-- What the word under the cursor completes. -/
inductive Completing where
  /-- The value of a flag. -/
  | value (f : Flag)
  /-- The value of a flag the command does not have. -/
  | unknownFlag
  /-- Not a flag's value. -/
  | other
  deriving DecidableEq, Repr

/-- Tells what the word under the cursor completes, given the words before it; gives also the
words before it that count (without a flag whose value is being completed) and the text to
complete (after `=` for `--name=text`). -/
def completing (flags : List Flag) (before : List String) (last : String) :
    Completing × List String × String :=
  let cs := last.toList
  if cs.head? = some '-' && !cs.contains '=' then (.other, before, last)
  else
    let (name, typed, withEqual) :=
      if cs.head? = some '-' then
        let head := cs.takeWhile (· ≠ '=')
        (if head.take 2 = ['-', '-'] then String.ofList (head.drop 2)
          else (head.getLast?.map Char.toString).getD "",
          String.ofList ((cs.dropWhile (· ≠ '=')).drop 1), true)
      else ("", last, false)
    let (name, words) :=
      if !name.isEmpty then (name, before)
      else
        match before.getLast? with
        | some prev =>
          if isFlagWord prev && !prev.contains '=' then (flagNameOf prev.toList, before.dropLast)
          else ("", before)
        | none => ("", before)
    if name.isEmpty then (.other, words, typed)
    else
      match flagNamed flags name with
      | none => (.unknownFlag, before, last)
      | some f =>
        if !withEqual && !f.takesText then (.other, before, typed)
        else (.value f, words, typed)

/-- The candidates for a flag name starting with `typed`. -/
def flagCandidates (typed : String) (f : Flag) : List String :=
  let long := "--" ++ f.name
  (if typed.isPrefixOf long then [long ++ "\t" ++ f.usage] else []) ++
    match f.short with
    | some c =>
      let short := "-" ++ c.toString
      if typed.isPrefixOf short then [short ++ "\t" ++ f.usage] else []
    | none => []

/-- The subcommands of a command (none for the program itself) offered as candidates: those
listed, and `help`, whose names start with `typed`; with whether it has any to offer. -/
def subcommandCandidates (typed : String) : Option Command → List String × Bool
  | some _ => ([], false)
  | none =>
    let offered := commands.filter (!·.hidden)
    (offered.filterMap fun c =>
      if typed.isPrefixOf c.name then some (c.name ++ "\t" ++ c.short) else none, !offered.isEmpty)

/-- The number of plain words of a line read with a command's flags. -/
def plainCount (flags : List Flag) (line : List String) : Nat :=
  match readFlags flags (line.length + 1) line with
  | .ok (_, plain) => plain.length
  | .error _ => 0

/-- The hidden command that answers a completion request, one of the commands while a request
runs. It reads no flags: its words stand as they are given. -/
def requestCommand : Command :=
  { name := "__complete", use := "__complete [command-line]", hidden := true,
    short := "Request shell completion choices for the specified command-line",
    aliases := ["__completeNoDesc"], readsFlags := false }

/-- The commands while a completion request runs. -/
def requestCommands : List Command :=
  commands ++ [requestCommand]

/-- The candidates and the directive for the words of a completion request. -/
def candidates (env : Environment) (words : List String) : List String × Nat :=
  let last := words.getLast?.getD ""
  let sorted (fs : List Flag) := fs.foldr insertFlag []
  match findCommandAmong requestCommands env words.dropLast with
  | .error _ => ([], 0)
  | .ok (command, rest) =>
    if !(command.map (·.readsFlags)).getD true then
      if last.startsWith "-" && !last.contains '=' then
        ((sorted (inheritedFlags env command) ++ sorted (ownFlags env command)).flatMap
          (flagCandidates last), 4)
      else ([], 0)
    else
      let flags := allFlags env command
      let (target, before, typed) := completing flags rest last
      -- a `--` already given makes every later word plain, flag names included
      let flagCompletion := plainCount flags (before ++ ["--"]) ≤ plainCount flags before
      match readFlags flags (before.length + 1) before with
      | .error _ => ([], 0)
      | .ok (values, plain) =>
        if target = .unknownFlag && flagCompletion then ([], 0)
        else if values.any fun (n, _) => n = "help" || (command.isNone && n = "version") then
          ([], 4)
        else
          let given (f : Flag) : Bool := values.any (·.1 = f.name)
          match target with
          | .value _ =>
            if flagCompletion then ([], 0)
            else
              match command with
              | some c =>
                if c.name = "help" then
                  match findCommandAmong requestCommands env plain with
                  | .ok (named, _) => ((subcommandCandidates typed named).1, 4)
                  | .error _ => ([], 4)
                else ([], 0)
              | none => ([], 0)
          | _ =>
            if typed.startsWith "-" && !typed.contains '=' && flagCompletion then
              let offered := (sorted (inheritedFlags env command) ++
                sorted (ownFlags env command)).filter (!given ·)
              (offered.flatMap (flagCandidates typed), 4)
            else
              let localGiven := (ownFlags env command).any fun f =>
                given f && (command.isSome || f.name = "help" || f.name = "version")
              let (subs, available) :=
                if plain.isEmpty && !localGiven then subcommandCandidates typed command
                else ([], false)
              let directive := if available then 4 else 0
              match command with
              | some c =>
                if c.name = "help" then
                  match findCommandAmong requestCommands env plain with
                  | .ok (named, _) => (subs ++ (subcommandCandidates typed named).1, 4)
                  | .error _ => (subs, 4)
                else (subs, directive)
              | none => (subs, directive)

/-- The answer to a completion request: the candidates, one per line, then the directive. -/
def complete (env : Environment) (descriptions : Bool) (words : List String) : String :=
  let (found, directive) := candidates env words
  let shown := found.map fun c =>
    let c := if descriptions then c else String.ofList (c.toList.takeWhile (· ≠ '\t'))
    (String.ofList (c.toList.takeWhile (· ≠ '\n'))).trimAscii.toString
  String.join (shown.map (· ++ "\n")) ++ ":" ++ toString directive ++ "\n"

/-- Whether a completion request shows descriptions: not for `__completeNoDesc`, nor when
`HIERWATCH_COMPLETION_DESCRIPTIONS` holds a false truth value. -/
def showsDescriptions (env : Environment) (request : String) : Bool :=
  request ≠ "__completeNoDesc" &&
    (truthValue (env.get "HIERWATCH_COMPLETION_DESCRIPTIONS")).getD true

end Cli

end StableWatch
