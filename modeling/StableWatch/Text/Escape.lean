/-!
# Terminal escape sequences

A terminal reads its input byte by byte through a machine whose states tell whether a byte is
shown or belongs to a control sequence: a CSI sequence (`ESC [` with parameters and a final
byte), an escape with intermediates, a device control string (`ESC P`), an operating system
command (`ESC ]`, ended by BEL or a string terminator) and the SOS, PM and APC strings
(`ESC X`, `ESC ^`, `ESC _`). The eight-bit C1 controls enter the same states directly.

`EscapeState.step` is that machine in the VT500 series' layout, with these changes: the lead
byte of a UTF-8 sequence enters `utf8`, where the caller reads a whole character; the data of
operating system commands and device control strings takes every byte from 0x20 up except the
string terminator 0x9C; a format effector (BS to CR) or an ESC right after the DCS introducer
starts the string's data, so that the data can carry an escape sequence; the SOS, PM and APC
strings take the ASCII bytes; DEL is a control in the ground state.

Only printable ASCII in the ground state is shown (`EscapeState.shows`).
-/

namespace StableWatch.Text

/-- The states of the terminal's input machine. -/
inductive EscapeState where
  /-- Text. -/
  | ground
  /-- After `ESC`. -/
  | escape
  /-- In an escape's intermediate bytes. -/
  | escapeIntermediate
  /-- After the CSI introducer. -/
  | csiEntry
  /-- In a CSI sequence's parameters. -/
  | csiParam
  /-- In a CSI sequence's intermediate bytes. -/
  | csiIntermediate
  /-- After the DCS introducer. -/
  | dcsEntry
  /-- In a device control string's parameters. -/
  | dcsParam
  /-- In a device control string's intermediate bytes. -/
  | dcsIntermediate
  /-- In a device control string's data. -/
  | dcsString
  /-- In an operating system command. -/
  | oscString
  /-- In a start-of-string string. -/
  | sosString
  /-- In a privacy message. -/
  | pmString
  /-- In an application program command. -/
  | apcString
  /-- At the lead byte of a UTF-8 sequence. -/
  | utf8
  deriving DecidableEq, Repr

namespace EscapeState

/-- The C0 controls that a sequence executes without leaving its state: all but CAN, SUB and
ESC. -/
def isKeptControl (b : Nat) : Bool :=
  b ≤ 0x17 || b = 0x19 || (0x1C ≤ b && b ≤ 0x1F)

/-- Whether a byte lies in a closed range. -/
def within (lo hi b : Nat) : Bool :=
  lo ≤ b && b ≤ hi

/-- Where a byte leads from any state whose own rules do not name it: ESC and the C1
introducers start their sequences, a UTF-8 lead byte enters `utf8`, and every other byte
(CAN, SUB, the other C1 controls, bytes that start nothing) returns to the ground state. -/
def anywhere (b : Nat) : EscapeState :=
  if b = 0x1B then .escape
  else if b = 0x90 then .dcsEntry
  else if b = 0x98 then .sosString
  else if b = 0x9B then .csiEntry
  else if b = 0x9D then .oscString
  else if b = 0x9E then .pmString
  else if b = 0x9F then .apcString
  else if within 0xC2 0xF4 b then .utf8
  else .ground

/-- The state after one byte. -/
def step (s : EscapeState) (b : Nat) : EscapeState :=
  match s with
  | .ground => if b < 0x80 && b ≠ 0x1B && b ≠ 0x18 && b ≠ 0x1A then .ground else anywhere b
  | .escape =>
    if isKeptControl b || b = 0x7F then .escape
    else if within 0x20 0x2F b then .escapeIntermediate
    else if b = 0x58 then .sosString
    else if b = 0x5E then .pmString
    else if b = 0x5F then .apcString
    else if b = 0x50 then .dcsEntry
    else if b = 0x5B then .csiEntry
    else if b = 0x5D then .oscString
    else if within 0x30 0x7E b then .ground
    else anywhere b
  | .escapeIntermediate =>
    if isKeptControl b || b = 0x7F || within 0x20 0x2F b then .escapeIntermediate
    else if within 0x30 0x7E b then .ground
    else anywhere b
  | .csiEntry =>
    if isKeptControl b || b = 0x7F then .csiEntry
    else if within 0x20 0x2F b then .csiIntermediate
    else if within 0x30 0x3F b then .csiParam
    else if within 0x40 0x7E b then .ground
    else anywhere b
  | .csiParam =>
    if isKeptControl b || b = 0x7F || within 0x30 0x3F b then .csiParam
    else if within 0x20 0x2F b then .csiIntermediate
    else if within 0x40 0x7E b then .ground
    else anywhere b
  | .csiIntermediate =>
    if isKeptControl b || b = 0x7F || within 0x20 0x2F b then .csiIntermediate
    else if within 0x30 0x7E b then .ground
    else anywhere b
  | .dcsEntry =>
    if within 0x08 0x0D b || b = 0x1B then .dcsString
    else if isKeptControl b || b = 0x7F then .dcsEntry
    else if within 0x20 0x2F b then .dcsIntermediate
    else if within 0x30 0x3F b then .dcsParam
    else if within 0x40 0x7E b then .dcsString
    else anywhere b
  | .dcsParam =>
    if isKeptControl b || b = 0x7F || within 0x30 0x3F b then .dcsParam
    else if within 0x20 0x2F b then .dcsIntermediate
    else if within 0x40 0x7E b then .dcsString
    else anywhere b
  | .dcsIntermediate =>
    if isKeptControl b || b = 0x7F || within 0x20 0x2F b then .dcsIntermediate
    else if within 0x30 0x7E b then .dcsString
    else anywhere b
  | .dcsString =>
    if b = 0x1B then .escape
    else if b = 0x9C || b = 0x18 || b = 0x1A then .ground
    else .dcsString
  | .oscString =>
    if b = 0x1B then .escape
    else if b = 0x07 || b = 0x9C || b = 0x18 || b = 0x1A then .ground
    else .oscString
  | .sosString | .pmString | .apcString =>
    if b < 0x80 && b ≠ 0x1B && b ≠ 0x18 && b ≠ 0x1A then s else anywhere b
  | .utf8 => anywhere b

/-- Whether the byte is shown: printable ASCII read in the ground state. -/
def shows (s : EscapeState) (b : Nat) : Bool :=
  s = .ground && within 0x20 0x7E b

end EscapeState

end StableWatch.Text
