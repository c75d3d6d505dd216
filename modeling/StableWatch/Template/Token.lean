import StableWatch.Text.Alphanumeric
import StableWatch.Text.Quoted
/-!
# Template tokens

A template is text with actions between `{{` and `}}`. Scanning turns it into tokens, one at a
time:

* outside actions, the text up to the next `{{` is one token. A `{{` followed by `-` and a blank
  (a trim marker) drops the blanks before it, and a `-` after a blank before `}}` drops the
  blanks after it;
* `{{/*` opens a comment, which must close with `*/` right before the closing delimiter; it
  leaves no token;
* inside an action: runs of blanks, `=`, `:=`, `|`, parentheses, quoted and raw strings,
  character constants, numbers, `.Field` and `$variable` names, the dot, identifiers, keywords,
  `true` and `false`, and any other printable ASCII character on its own.

Every token knows the byte offset it starts at and its line. The first error ends the tokens;
its message is the token's text. A name must be followed by a blank, the end of the text, one of
`. , | : ( )` or the closing delimiter, or it is a `bad character`.
-/

namespace StableWatch.Template

/-- The words an action reserves, with the dot and `nil`. -/
inductive Keyword where
  | blockWord | breakWord | continueWord | defineWord | elseWord | endWord | ifWord
  | rangeWord | templateWord | withWord | nilWord | dotWord
  deriving DecidableEq, Repr, Inhabited

/-- The keyword a word spells, if any. -/
def Keyword.ofWord? : String → Option Keyword
  | "block" => some .blockWord
  | "break" => some .breakWord
  | "continue" => some .continueWord
  | "define" => some .defineWord
  | "else" => some .elseWord
  | "end" => some .endWord
  | "if" => some .ifWord
  | "range" => some .rangeWord
  | "template" => some .templateWord
  | "with" => some .withWord
  | "nil" => some .nilWord
  | _ => none

/-- What a token is. -/
inductive TokenKind where
  | error | bool | char | charConstant | complex | assign | declare | eof | field | identifier
  | leftDelim | leftParen | number | pipe | rawString | rightDelim | rightParen | space
  | string | text | variable
  | keyword (k : Keyword)
  deriving DecidableEq, Repr, Inhabited

/-- A token: its kind, its text (the message, for an error), the byte offset it starts at and its
line, counted from one. -/
structure Token where
  kind : TokenKind
  text : String
  pos : Nat
  line : Nat
  deriving DecidableEq, Repr, Inhabited

/-- How a message names a token: `EOF`, an error's message, a keyword between angle brackets,
or the quoted text, cut after ten characters when it is longer than ten bytes. -/
def Token.describe (t : Token) : String :=
  match t.kind with
  | .eof => "EOF"
  | .error => t.text
  | .keyword _ => "<" ++ t.text ++ ">"
  | _ =>
    if t.text.utf8ByteSize > 10 then Text.quote (String.ofList (t.text.toList.take 10)) ++ "..."
    else Text.quote t.text

/-- The blanks of an action. -/
def isBlank (c : Char) : Bool :=
  c = ' ' || c = '\t' || c = '\r' || c = '\n'

/-- The characters of names: letters, digits and the underscore. -/
def isNameChar (c : Char) : Bool :=
  c = '_' || Text.isLetterOrDigit c

/-- A code point as `U+` and at least four uppercase hex digits, followed by the quoted
character when it is printable. -/
def codePoint (c : Char) : String :=
  let digits := (Nat.toDigits 16 c.toNat).map Char.toUpper
  let padded := List.replicate (4 - digits.length) '0' ++ digits
  "U+" ++ String.ofList padded ++
    (if Text.isPrintable c then " '" ++ c.toString ++ "'" else "")

/-- A trim marker opening an action: `-` and a blank. -/
def opensTrimmed : List Char → Bool
  | '-' :: c :: _ => isBlank c
  | _ => false

/-- A trim marker closing an action: a blank and `-`. -/
def closesTrimmed : List Char → Bool
  | c :: '-' :: _ => isBlank c
  | _ => false

/-- Whether the text starts with the closing delimiter, and whether with a trim marker. -/
def atRightDelim (cs : List Char) : Bool × Bool :=
  if closesTrimmed cs && (cs.drop 2).take 2 == ['}', '}'] then (true, true)
  else if cs.take 2 == ['}', '}'] then (true, false)
  else (false, false)

/-- Whether a name may end before this text. -/
def atTerminator (cs : List Char) : Bool :=
  match cs with
  | [] => true
  | c :: _ => isBlank c || ".,|:)(".toList.contains c || cs.take 2 == ['}', '}']

/-- The number of blanks at the end of a text. -/
def trailingBlanks (cs : List Char) : Nat :=
  (cs.reverse.takeWhile isBlank).length

/-- The text before the first `{{`, and the rest from it on. -/
def splitAtAction : List Char → Option (List Char × List Char)
  | [] => none
  | '{' :: '{' :: rest => some ([], '{' :: '{' :: rest)
  | c :: rest => (splitAtAction rest).map fun (before, after) => (c :: before, after)

/-- The number of characters before the first `*/`. -/
def commentLength : List Char → Option Nat
  | [] => none
  | '*' :: '/' :: _ => some 0
  | _ :: rest => (commentLength rest).map (· + 1)

/-- The length of a quoted constant after its opening quote, through its closing quote; none when
a line break or the end of the text comes first. A backslash escapes the next character. -/
def quotedLength (close : Char) : List Char → Option Nat
  | [] => none
  | '\\' :: c :: rest => if c = '\n' then none else (quotedLength close rest).map (· + 2)
  | c :: rest =>
    if c = close then some 1
    else if c = '\n' ∨ c = '\\' then none
    else (quotedLength close rest).map (· + 1)

/-- The length of a raw string after its opening backquote, through its closing one. -/
def rawLength : List Char → Option Nat
  | [] => none
  | c :: rest => if c = '\x60' then some 1 else (rawLength rest).map (· + 1)

/-- Takes one character from a set: how many were taken (none or one). -/
def acceptOne (set : List Char) (cs : List Char) : Nat :=
  match cs with
  | c :: _ => if set.contains c then 1 else 0
  | [] => 0

/-- Takes a run of characters from a set. -/
def acceptRun (set : List Char) (cs : List Char) : Nat :=
  (cs.takeWhile set.contains).length

/-- Scans a number: an optional sign, an optional `0x`, `0o` or `0b` prefix, digits with
underscores, a fraction, an exponent (`e` for decimal, `p` for hex), an optional `i`. Gives the
characters taken and whether the number ended well, that is not right before a name character
(which is then taken too). -/
def scanNumber (cs : List Char) : Nat × Bool :=
  let n := acceptOne ['+', '-'] cs
  let leadingZero := acceptOne ['0'] (cs.drop n)
  let n := n + leadingZero
  let (base, n) :=
    if leadingZero = 1 then
      if acceptOne ['x', 'X'] (cs.drop n) = 1 then (16, n + 1)
      else if acceptOne ['o', 'O'] (cs.drop n) = 1 then (8, n + 1)
      else if acceptOne ['b', 'B'] (cs.drop n) = 1 then (2, n + 1)
      else (10, n)
    else (10, n)
  let digits := match base with
    | 16 => "0123456789abcdefABCDEF_".toList
    | 8 => "01234567_".toList
    | 2 => "01_".toList
    | _ => "0123456789_".toList
  let n := n + acceptRun digits (cs.drop n)
  let n := if acceptOne ['.'] (cs.drop n) = 1 then n + 1 + acceptRun digits (cs.drop (n + 1)) else n
  let exponent (marks : List Char) (n : Nat) : Nat :=
    if acceptOne marks (cs.drop n) = 1 then
      let n := n + 1
      let n := n + acceptOne ['+', '-'] (cs.drop n)
      n + acceptRun "0123456789_".toList (cs.drop n)
    else n
  let n := if base = 10 then exponent ['e', 'E'] n else n
  let n := if base = 16 then exponent ['p', 'P'] n else n
  let n := n + acceptOne ['i'] (cs.drop n)
  match cs.drop n with
  | c :: _ => if isNameChar c then (n + 1, false) else (n, true)
  | [] => (n, true)

/-- The scanner's place: the text not yet scanned, its byte offset and line, whether it is inside
an action, and how many parentheses are open there. -/
structure Scanner where
  rest : List Char
  pos : Nat := 0
  line : Nat := 1
  inside : Bool := false
  depth : Int := 0
  deriving DecidableEq, Repr, Inhabited

namespace Scanner

/-- Moves past `n` characters. -/
def skip (s : Scanner) (n : Nat) : Scanner :=
  let taken := s.rest.take n
  { s with rest := s.rest.drop n, pos := s.pos + (String.ofList taken).utf8ByteSize,
           line := s.line + taken.count '\n' }

/-- A token of `n` characters starting here, and the scanner after it. -/
def emit (s : Scanner) (kind : TokenKind) (n : Nat) : Token × Scanner :=
  ({ kind, text := String.ofList (s.rest.take n), pos := s.pos, line := s.line }, s.skip n)

/-- An error starting here; the scanner has nothing left after it. -/
def fail (s : Scanner) (message : String) : Token × Scanner :=
  ({ kind := .error, text := message, pos := s.pos, line := s.line }, { s with rest := [] })

/-- The closing delimiter, with its trim marker when there is one; a trim marker also drops the
blanks after the delimiter. -/
def closeAction (s : Scanner) (trim : Bool) : Token × Scanner :=
  let s := if trim then s.skip 2 else s
  let (token, s) := s.emit .rightDelim 2
  let s := if trim then s.skip (s.rest.takeWhile isBlank).length else s
  (token, { s with inside := false })

/-- A name after `$` or `.`: the name characters, which must end where a name may end. -/
def scanName (s : Scanner) (kind : TokenKind) : Token × Scanner :=
  let name := (s.rest.drop 1).takeWhile isNameChar
  match s.rest.drop (1 + name.length) with
  | c :: more =>
    if atTerminator (c :: more) then s.emit kind (1 + name.length)
    else s.fail ("bad character " ++ codePoint c)
  | [] => s.emit kind (1 + name.length)

/-- The token of a word of `n` characters: a keyword, `true` or `false`, or an identifier. -/
def wordToken (s : Scanner) (word : String) (n : Nat) : Token × Scanner :=
  match Keyword.ofWord? word with
  | some k => s.emit (.keyword k) n
  | none => if word = "true" ∨ word = "false" then s.emit .bool n else s.emit .identifier n

/-- A word, which must end where a name may end. -/
def scanWord (s : Scanner) : Token × Scanner :=
  let word := s.rest.takeWhile isNameChar
  match s.rest.drop word.length with
  | c :: more =>
    if !atTerminator (c :: more) then s.fail ("bad character " ++ codePoint c)
    else s.wordToken (String.ofList word) word.length
  | [] => s.wordToken (String.ofList word) word.length

/-- A number, or a complex number written as two numbers the second of which ends in `i`. -/
def scanNumeral (s : Scanner) : Token × Scanner :=
  let (n, ok) := scanNumber s.rest
  let bad (n : Nat) := s.fail ("bad number syntax: " ++ Text.quote (String.ofList (s.rest.take n)))
  if !ok then bad n
  else
    match s.rest.drop n with
    | c :: _ =>
      if c = '+' ∨ c = '-' then
        let (m, ok) := scanNumber (s.rest.drop n)
        if !ok || (s.rest.take (n + m)).getLast? != some 'i' then bad (n + m)
        else s.emit .complex (n + m)
      else s.emit .number n
    | [] => s.emit .number n

/-- A run of blanks. Before a trim-marked closing delimiter the last blank belongs to the marker:
with one blank the delimiter comes at once. -/
def scanBlanks (s : Scanner) : Token × Scanner :=
  let n := (s.rest.takeWhile isBlank).length
  match s.rest.drop n with
  | '-' :: '}' :: '}' :: _ =>
    if n = 1 then s.closeAction true else s.emit .space (n - 1)
  | _ => s.emit .space n

/-- One token inside an action. -/
def scanAction (s : Scanner) : Token × Scanner :=
  match atRightDelim s.rest with
  | (true, trim) => if s.depth = 0 then s.closeAction trim else s.fail "unclosed left paren"
  | _ =>
    match s.rest with
    | [] => s.fail "unclosed action"
    | c :: more =>
      if isBlank c then s.scanBlanks
      else if c = '=' then s.emit .assign 1
      else if c = ':' then
        match more with
        | '=' :: _ => s.emit .declare 2
        | _ => s.fail "expected :="
      else if c = '|' then s.emit .pipe 1
      else if c = '"' then
        match quotedLength '"' more with
        | some n => s.emit .string (n + 1)
        | none => s.fail "unterminated quoted string"
      else if c = '\x60' then
        match rawLength more with
        | some n => s.emit .rawString (n + 1)
        | none => s.fail "unterminated raw quoted string"
      else if c = '$' then
        if atTerminator more then s.emit .variable 1 else s.scanName .variable
      else if c = '\'' then
        match quotedLength '\'' more with
        | some n => s.emit .charConstant (n + 1)
        | none => s.fail "unterminated character constant"
      else if c = '.' && (match more with | d :: _ => !d.isDigit | [] => false) then
        if atTerminator more then s.emit (.keyword .dotWord) 1 else s.scanName .field
      else if c = '.' ∨ c = '+' ∨ c = '-' ∨ c.isDigit then s.scanNumeral
      else if isNameChar c then s.scanWord
      else if c = '(' then
        let (t, s) := s.emit .leftParen 1
        (t, { s with depth := s.depth + 1 })
      else if c = ')' then
        if s.depth - 1 < 0 then s.fail "unexpected right paren"
        else
          let (t, s) := s.emit .rightParen 1
          (t, { s with depth := s.depth - 1 })
      else if c.toNat < 0x80 ∧ Text.isPrintable c then s.emit .char 1
      else s.fail ("unrecognized character in action: " ++ codePoint c)

/-- The opening delimiter at the start of the text: a comment is skipped whole (no token), an
action is opened. -/
def openAction (s : Scanner) : Option Token × Scanner :=
  let afterDelim := s.rest.drop 2
  let marker := if opensTrimmed afterDelim then 2 else 0
  if (afterDelim.drop marker).take 2 == ['/', '*'] then
    let s := s.skip (2 + marker)
    match commentLength (s.rest.drop 2) with
    | none => let (t, s) := s.fail "unclosed comment"; (some t, s)
    | some n =>
      let after := s.skip (2 + n + 2)
      match atRightDelim after.rest with
      | (false, _) => let (t, s) := s.fail "comment ends before closing delimiter"; (some t, s)
      | (true, trim) =>
        let after := after.skip ((if trim then 2 else 0) + 2)
        let after := if trim then after.skip (after.rest.takeWhile isBlank).length else after
        (none, after)
  else
    let (t, s) := s.emit .leftDelim 2
    (some t, { s.skip marker with inside := true, depth := 0 })

/-- One step outside actions: the text up to the next action (without the blanks a trim marker
drops), the end of the text, or what opening the next action gives. -/
def scanText (s : Scanner) : Option Token × Scanner :=
  match splitAtAction s.rest with
  | some (before, after) =>
    let trim := if opensTrimmed (after.drop 2) then trailingBlanks before else 0
    let kept := before.length - trim
    if kept = 0 then (s.skip before.length).openAction
    else
      let (t, _) := s.emit .text kept
      (some t, s.skip before.length)
  | none =>
    if s.rest.isEmpty then (some { kind := .eof, text := "", pos := s.pos, line := s.line }, s)
    else
      let (t, s) := s.emit .text s.rest.length
      (some t, s)

/-- One step: a token, or nothing when a comment was skipped. -/
def step (s : Scanner) : Option Token × Scanner :=
  if s.inside then
    let (t, s) := s.scanAction
    (some t, s)
  else s.scanText

/-- The tokens from here, within `fuel` steps, through the end of the text or the first error. -/
def tokens : Nat → Scanner → List Token
  | 0, s => [{ kind := .eof, text := "", pos := s.pos, line := s.line }]
  | fuel + 1, s =>
    match s.step with
    | (some t, s) => if t.kind = .eof ∨ t.kind = .error then [t] else t :: tokens fuel s
    | (none, s) => tokens fuel s

end Scanner

/-- The tokens of a template, ending with the end of the text or an error. Every step before the
last takes at least one character, so the length of the text bounds the steps. -/
def scan (text : String) : List Token :=
  Scanner.tokens (text.length + 1) { rest := text.toList }

end StableWatch.Template
