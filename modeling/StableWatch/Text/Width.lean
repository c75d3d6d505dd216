import StableWatch.Text.Escape
import StableWatch.Text.Grapheme
import StableWatch.Text.Utf8
/-!
# Display width of text

The width of a line is the number of terminal columns it takes. It is read as a terminal reads
it (`EscapeState`): printable ASCII in the ground state takes one column, control characters
and escape sequences take none. A UTF-8 character met where the terminal would show it starts a
grapheme cluster (`Text.advance`), and the whole cluster is measured at once:

* controls, line breaks, extending marks and the joiner take no column; the two-em and
  three-em dashes take three and four; characters of East Asian width wide or fullwidth, and
  regional indicators, take two; a pictograph takes two when it is shown as emoji by default
  and one otherwise; everything else takes one;
* the cluster takes the width of its first code point plus that of each code point after it,
  except that after a regional indicator or a leading Hangul consonant nothing is added, and
  after a pictograph only a variation selector counts: text style (U+FE0E) makes the cluster
  one column, emoji style (U+FE0F) two.

The tables hold Unicode 15.0 as closed ranges of code points in increasing order.
-/

namespace StableWatch.Text

/-- The pictographs shown as emoji by default. -/
def emojiPresentation : List (Nat × Nat) :=
  [(0x231A, 0x231B), (0x23E9, 0x23EC), (0x23F0, 0x23F0), (0x23F3, 0x23F3), (0x25FD, 0x25FE),
    (0x2614, 0x2615), (0x2648, 0x2653), (0x267F, 0x267F), (0x2693, 0x2693), (0x26A1, 0x26A1),
    (0x26AA, 0x26AB), (0x26BD, 0x26BE), (0x26C4, 0x26C5), (0x26CE, 0x26CE), (0x26D4, 0x26D4),
    (0x26EA, 0x26EA), (0x26F2, 0x26F3), (0x26F5, 0x26F5), (0x26FA, 0x26FA), (0x26FD, 0x26FD),
    (0x2705, 0x2705), (0x270A, 0x270B), (0x2728, 0x2728), (0x274C, 0x274C), (0x274E, 0x274E),
    (0x2753, 0x2755), (0x2757, 0x2757), (0x2795, 0x2797), (0x27B0, 0x27B0), (0x27BF, 0x27BF),
    (0x2B1B, 0x2B1C), (0x2B50, 0x2B50), (0x2B55, 0x2B55), (0x1F004, 0x1F004), (0x1F0CF, 0x1F0CF),
    (0x1F18E, 0x1F18E), (0x1F191, 0x1F19A), (0x1F1E6, 0x1F1FF), (0x1F201, 0x1F201),
    (0x1F21A, 0x1F21A), (0x1F22F, 0x1F22F), (0x1F232, 0x1F236), (0x1F238, 0x1F23A),
    (0x1F250, 0x1F251), (0x1F300, 0x1F320), (0x1F32D, 0x1F335), (0x1F337, 0x1F37C),
    (0x1F37E, 0x1F393), (0x1F3A0, 0x1F3CA), (0x1F3CF, 0x1F3D3), (0x1F3E0, 0x1F3F0),
    (0x1F3F4, 0x1F3F4), (0x1F3F8, 0x1F43E), (0x1F440, 0x1F440), (0x1F442, 0x1F4FC),
    (0x1F4FF, 0x1F53D), (0x1F54B, 0x1F54E), (0x1F550, 0x1F567), (0x1F57A, 0x1F57A),
    (0x1F595, 0x1F596), (0x1F5A4, 0x1F5A4), (0x1F5FB, 0x1F64F), (0x1F680, 0x1F6C5),
    (0x1F6CC, 0x1F6CC), (0x1F6D0, 0x1F6D2), (0x1F6D5, 0x1F6D7), (0x1F6DC, 0x1F6DF),
    (0x1F6EB, 0x1F6EC), (0x1F6F4, 0x1F6FC), (0x1F7E0, 0x1F7EB), (0x1F7F0, 0x1F7F0),
    (0x1F90C, 0x1F93A), (0x1F93C, 0x1F945), (0x1F947, 0x1F9FF), (0x1FA70, 0x1FA7C),
    (0x1FA80, 0x1FA88), (0x1FA90, 0x1FABD), (0x1FABF, 0x1FAC5), (0x1FACE, 0x1FADB),
    (0x1FAE0, 0x1FAE8), (0x1FAF0, 0x1FAF8)]

/-- The characters of East Asian width wide or fullwidth, with the code points not yet assigned
in the ideograph blocks and in planes 2 and 3, which the standard makes wide by default. -/
def wideRanges : List (Nat × Nat) :=
  [(0x1100, 0x115F), (0x231A, 0x231B), (0x2329, 0x232A), (0x23E9, 0x23EC), (0x23F0, 0x23F0),
    (0x23F3, 0x23F3), (0x25FD, 0x25FE), (0x2614, 0x2615), (0x2648, 0x2653), (0x267F, 0x267F),
    (0x2693, 0x2693), (0x26A1, 0x26A1), (0x26AA, 0x26AB), (0x26BD, 0x26BE), (0x26C4, 0x26C5),
    (0x26CE, 0x26CE), (0x26D4, 0x26D4), (0x26EA, 0x26EA), (0x26F2, 0x26F3), (0x26F5, 0x26F5),
    (0x26FA, 0x26FA), (0x26FD, 0x26FD), (0x2705, 0x2705), (0x270A, 0x270B), (0x2728, 0x2728),
    (0x274C, 0x274C), (0x274E, 0x274E), (0x2753, 0x2755), (0x2757, 0x2757), (0x2795, 0x2797),
    (0x27B0, 0x27B0), (0x27BF, 0x27BF), (0x2B1B, 0x2B1C), (0x2B50, 0x2B50), (0x2B55, 0x2B55),
    (0x2E80, 0x2E99), (0x2E9B, 0x2EF3), (0x2F00, 0x2FD5), (0x2FF0, 0x2FFB), (0x3000, 0x303E),
    (0x3041, 0x3096), (0x3099, 0x30FF), (0x3105, 0x312F), (0x3131, 0x318E), (0x3190, 0x31E3),
    (0x31F0, 0x321E), (0x3220, 0x3247), (0x3250, 0x4DBF), (0x4E00, 0xA48C), (0xA490, 0xA4C6),
    (0xA960, 0xA97C), (0xAC00, 0xD7A3), (0xF900, 0xFAFF), (0xFE10, 0xFE19),
    (0xFE30, 0xFE52), (0xFE54, 0xFE66), (0xFE68, 0xFE6B), (0xFF01, 0xFF60), (0xFFE0, 0xFFE6),
    (0x16FE0, 0x16FE4), (0x16FF0, 0x16FF1), (0x17000, 0x187F7), (0x18800, 0x18CD5),
    (0x18D00, 0x18D08), (0x1AFF0, 0x1AFF3), (0x1AFF5, 0x1AFFB), (0x1AFFD, 0x1AFFE),
    (0x1B000, 0x1B122), (0x1B132, 0x1B132), (0x1B150, 0x1B152), (0x1B155, 0x1B155),
    (0x1B164, 0x1B167), (0x1B170, 0x1B2FB), (0x1F004, 0x1F004), (0x1F0CF, 0x1F0CF),
    (0x1F18E, 0x1F18E), (0x1F191, 0x1F19A), (0x1F200, 0x1F202), (0x1F210, 0x1F23B),
    (0x1F240, 0x1F248), (0x1F250, 0x1F251), (0x1F260, 0x1F265), (0x1F300, 0x1F320),
    (0x1F32D, 0x1F335), (0x1F337, 0x1F37C), (0x1F37E, 0x1F393), (0x1F3A0, 0x1F3CA),
    (0x1F3CF, 0x1F3D3), (0x1F3E0, 0x1F3F0), (0x1F3F4, 0x1F3F4), (0x1F3F8, 0x1F43E),
    (0x1F440, 0x1F440), (0x1F442, 0x1F4FC), (0x1F4FF, 0x1F53D), (0x1F54B, 0x1F54E),
    (0x1F550, 0x1F567), (0x1F57A, 0x1F57A), (0x1F595, 0x1F596), (0x1F5A4, 0x1F5A4),
    (0x1F5FB, 0x1F64F), (0x1F680, 0x1F6C5), (0x1F6CC, 0x1F6CC), (0x1F6D0, 0x1F6D2),
    (0x1F6D5, 0x1F6D7), (0x1F6DC, 0x1F6DF), (0x1F6EB, 0x1F6EC), (0x1F6F4, 0x1F6FC),
    (0x1F7E0, 0x1F7EB), (0x1F7F0, 0x1F7F0), (0x1F90C, 0x1F93A), (0x1F93C, 0x1F945),
    (0x1F947, 0x1F9FF), (0x1FA70, 0x1FA7C), (0x1FA80, 0x1FA88), (0x1FA90, 0x1FABD),
    (0x1FABF, 0x1FAC5), (0x1FACE, 0x1FADB), (0x1FAE0, 0x1FAE8), (0x1FAF0, 0x1FAF8),
    (0x20000, 0x2FFFD), (0x30000, 0x3FFFD)]

/-- Whether a code point lies in one of the ranges. -/
def inRanges (ranges : List (Nat × Nat)) (n : Nat) : Bool :=
  ranges.any fun (lo, hi) => lo ≤ n && n ≤ hi

/-- The columns a code point of break class `k` takes on its own. -/
def charWidth (c : Char) (k : BreakClass) : Nat :=
  match k with
  | .control | .cr | .lf | .extend | .zwj => 0
  | .regionalIndicator => 2
  | .pictographic => if inRanges emojiPresentation c.toNat then 2 else 1
  | _ =>
    if c.toNat = 0x2E3A then 3
    else if c.toNat = 0x2E3B then 4
    else if inRanges wideRanges c.toNat then 2
    else 1

/-- The width of a cluster that began with a code point of class `first` and measured `w` so
far, once the code point `c` of class `k` has joined it. -/
def joinedWidth (first : BreakClass) (w : Nat) (c : Char) (k : BreakClass) : Nat :=
  match first with
  | .pictographic => if c = '︎' then 1 else if c = '️' then 2 else w
  | .regionalIndicator | .l => w
  | _ => w + charWidth c k

/-- Where the reading of a line stands: in the terminal's machine, or inside a grapheme
cluster, with the class of its first code point, its state and its width so far. -/
inductive Reading where
  /-- Reading bytes in a state of the terminal's machine. -/
  | sequence (s : EscapeState)
  /-- Inside a grapheme cluster. -/
  | cluster (first : BreakClass) (state : ClusterState) (columns : Nat)

/-- Reads one character in a state of the terminal's machine: the columns it takes at once and
where the reading goes on. A character beyond ASCII whose lead byte enters `utf8` starts a
cluster; otherwise its bytes go through the machine one by one. -/
def readChar (s : EscapeState) (c : Char) : Nat × Reading :=
  let n := c.toNat
  if n < 0x80 then ((if s.shows n then 1 else 0), .sequence (s.step n))
  else
    match utf8Bytes c with
    | lead :: rest =>
      match s.step lead with
      | .utf8 =>
        let k := breakClass c
        (0, .cluster k (startState k) (charWidth c k))
      | next => (0, .sequence (rest.foldl EscapeState.step next))
    | [] => (0, .sequence s)

/-- The columns the rest of a line takes from where the reading stands; a cluster counts when
it ends, and the character after it is read in the ground state. -/
def columnsFrom : Reading → List Char → Nat
  | .sequence _, [] => 0
  | .cluster _ _ w, [] => w
  | .sequence s, c :: rest =>
    let (n, next) := readChar s c
    n + columnsFrom next rest
  | .cluster first state w, c :: rest =>
    let k := breakClass c
    let (state', ends) := advance state k
    if ends then
      let (n, next) := readChar .ground c
      w + n + columnsFrom next rest
    else columnsFrom (.cluster first state' (joinedWidth first w c k)) rest

/-- The number of columns a line takes on a terminal. -/
def width (line : String) : Nat :=
  columnsFrom (.sequence .ground) line.toList

end StableWatch.Text
