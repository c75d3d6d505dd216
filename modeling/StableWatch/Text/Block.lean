import StableWatch.Text.Width
/-!
# Blocks of styled text

A terminal style without colors changes text in three ways only: a tab becomes four spaces, a
carriage return right before a line break is dropped, and a text of several lines becomes a
block whose lines are padded with spaces on the right to the width of the widest (`width`
counts columns, not characters). A text of one line keeps its width.
-/

namespace StableWatch.Text

/-- Tabs as four spaces, and each carriage return that ends a line dropped. -/
def normalizeBreaks : List Char → List Char
  | [] => []
  | '\t' :: rest => ' ' :: ' ' :: ' ' :: ' ' :: normalizeBreaks rest
  | '\r' :: '\n' :: rest => '\n' :: normalizeBreaks rest
  | c :: rest => c :: normalizeBreaks rest

/-- A line padded with spaces to `columns` columns. -/
def padLine (columns : Nat) (line : String) : String :=
  line ++ String.ofList (List.replicate (columns - width line) ' ')

/-- Text as a style without colors renders it. -/
def block (text : String) : String :=
  let lines := (String.ofList (normalizeBreaks text.toList)).splitOn "\n"
  match lines with
  | [line] => line
  | _ =>
    let widest := (lines.map width).foldl max 0
    "\n".intercalate (lines.map (padLine widest))

end StableWatch.Text
