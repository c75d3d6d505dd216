/-!
# Trees of text

A tree of one level is written as its label on a line of its own, then each item on its own line
after an edge: `├── ` for every item but the last, `└── ` for the last. When an item has several
lines, its further lines are indented so that they stay under it: by `│   ` while more items
follow, by four spaces under the last one. A label is written as it is.
-/

namespace StableWatch.Text

/-- A label with items below it. -/
structure Tree where
  label : String
  items : List String := []
  deriving DecidableEq, Repr

namespace Tree

/-- An item's lines after the first, indented by `indent`. -/
def indentItem (indent item : String) : String :=
  match item.splitOn "\n" with
  | [] => ""
  | first :: rest => "\n".intercalate (first :: rest.map (indent ++ ·))

/-- The lines of the items, each ending with a line break. -/
def renderItems : List String → String
  | [] => ""
  | [item] => "└── " ++ indentItem "    " item ++ "\n"
  | item :: rest => "├── " ++ indentItem "│   " item ++ "\n" ++ renderItems rest

/-- The tree's text, ending with a line break. -/
def render (t : Tree) : String :=
  t.label ++ "\n" ++ renderItems t.items

end Tree

end StableWatch.Text
