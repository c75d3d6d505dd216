import StableWatch.History.Record
import StableWatch.Json.Parse
import StableWatch.Json.Print
import StableWatch.Time.Rfc3339
/-!
# The build history

The history keeps the last twenty builds, oldest first. Recording a build numbers it one past
the last recorded build (or `1` when there is none, the number wrapping in 64 bits) and drops
the oldest builds beyond twenty.

The history file is a JSON object whose `builds` member lists records with the members
`number`, `started_at` (RFC 3339), `duration` (nanoseconds), `roots`, `hierarchies` and, when a
build failed, `error`. `History.fileText` writes it indented by two spaces, a list never given
as `null`. A start whose year lies outside 0 to 9999, or whose offset reaches 24 hours, has no
RFC 3339 text, and the file cannot be written (`History.fileProblem?`).

`History.ofText` reads such a file. Members are matched to fields with ASCII case folding,
later members override earlier ones, and unknown members are skipped; `null` leaves a field as it
is, except that it empties a list. A repeated member is read over what the earlier one left: an
array fills a list in place, item by item over the old items, and a shorter array keeps the
items past its end in the list's storage, where a later, longer one finds them again
(`Cells`). A text that is not JSON, or holds a value of the wrong type anywhere a field is read,
gives the empty history.
-/

namespace StableWatch

/-- The recorded builds, oldest first. -/
structure History where
  builds : List BuildRecord := []
  deriving DecidableEq, Repr

namespace History

/-- How many builds the history keeps. -/
def maxBuilds : Nat := 20

/-- A number in signed 64 bits, wrapping around. -/
def wrap64 (n : Int) : Int :=
  let m := n % Int.pow 2 64
  if m ≥ Int.pow 2 63 then m - Int.pow 2 64 else m

/-- The number the next recorded build gets. -/
def nextNumber (h : History) : Int :=
  match h.builds.getLast? with
  | some r => wrap64 (r.number + 1)
  | none => 1

/-- Records a build under the next number; gives the number and the history after. -/
def record (h : History) (r : BuildRecord) : Int × History :=
  let number := h.nextNumber
  let builds := h.builds ++ [{ r with number }]
  (number, { builds := builds.drop (builds.length - maxBuilds) })

/-- The last recorded build. -/
def last? (h : History) : Option BuildRecord :=
  h.builds.getLast?

/-- A record as the history file writes it. -/
def recordJson (r : BuildRecord) : JsonValue :=
  let texts : Option (List String) → JsonValue := fun l => (l.map JsonValue.ofTexts).getD .null
  .object ([("number", JsonValue.ofInt r.number),
    ("started_at", JsonValue.ofText r.startedAt.rfc3339Nano),
    ("duration", JsonValue.ofInt r.duration.ns),
    ("roots", texts r.roots),
    ("hierarchies", texts r.hierarchies)] ++
    (if r.error = "" then [] else [("error", JsonValue.ofText r.error)]))

/-- The text of the history file. -/
def fileText (h : History) : String :=
  (JsonValue.object [("builds", .array (h.builds.map recordJson))]).render ""

/-- Why the history file cannot be written, if it cannot: the first build whose start has no
strict RFC 3339 text stops the writing. -/
def fileProblem? (h : History) : Option String :=
  h.builds.findSome? fun r => r.startedAt.jsonProblem?.map
    ("json: error calling MarshalJSON for type *time.Time: " ++ ·)

/-- Records builds in order, writing the file after each; stops at the first write that fails,
with its message. Gives the numbers the builds got and the history after. -/
def recordAll (h : History) : List BuildRecord → Except String (List Int × History)
  | [] => .ok ([], h)
  | r :: rest =>
    let (n, h) := h.record r
    match h.fileProblem? with
    | some problem => .error problem
    | none => (recordAll h rest).map fun (ns, h) => (n :: ns, h)

/-- A signed 64-bit integer written without fraction or exponent. -/
def integerOf (literal : String) : Option Int :=
  let (negative, ds) := match literal.toList with
    | '-' :: ds => (true, ds)
    | ds => (false, ds)
  if ds.isEmpty || !ds.all Char.isDigit then none
  else
    let n : Int := ds.foldl (fun acc c => acc * 10 + (c.toNat - '0'.toNat)) 0
    let n := if negative then -n else n
    if -Int.pow 2 63 ≤ n && n < Int.pow 2 63 then some n else none

/-- Reads an integer field over its old value. -/
def readInt (old : Int) : JsonValue → Option Int
  | .null => some old
  | .number literal => integerOf literal
  | _ => none

/-- Reads a text field over its old value. -/
def readText (old : String) : JsonValue → Option String
  | .null => some old
  | .string raw => some (JsonValue.unescape raw)
  | _ => none

/-- A list as the decoder fills it in place: the items it holds, and the cells of its storage
past them, left from a longer array decoded into it before. -/
structure Cells (α : Type) where
  items : List α := []
  spare : List α := []
  deriving Repr

/-- Reads an array into a list in place: item `i` is read over cell `i` of the storage (a spare
cell, or `blank` past the storage), and the cells past the array stay spare. An empty array
leaves an empty list with fresh storage. -/
def Cells.read {α : Type} (old : Cells α) (blank : α) (readItem : α → JsonValue → Option α)
    (items : List JsonValue) : Option (Cells α) :=
  if items.isEmpty then some {}
  else
    let storage := old.items ++ old.spare
    (items.zipIdx.mapM fun (item, i) => readItem (storage.getD i blank) item).map fun read =>
      { items := read, spare := storage.drop read.length }

/-- Reads a list of texts over its old value; `null` makes it no list at all. -/
def readTexts (old : Option (Cells String)) : JsonValue → Option (Option (Cells String))
  | .null => some none
  | .array items => some <$> (old.getD {}).read "" readText items
  | _ => none

/-- Reads a time field over its old value; the string is read as written, escapes and all. -/
def readTime (old : Timestamp) : JsonValue → Option Timestamp
  | .null => some old
  | .string raw => Timestamp.ofRfc3339? raw
  | _ => none

/-- A record as the decoder fills it in place, its lists with their storage. -/
structure RecordCells where
  number : Int := 0
  startedAt : Timestamp := Timestamp.zero
  duration : Duration := ⟨0⟩
  roots : Option (Cells String) := none
  hierarchies : Option (Cells String) := none
  error : String := ""

/-- The record a decoded one holds. -/
def RecordCells.record (r : RecordCells) : BuildRecord :=
  { number := r.number, startedAt := r.startedAt, duration := r.duration,
    roots := r.roots.map (·.items), hierarchies := r.hierarchies.map (·.items), error := r.error }

/-- Reads one member of a record into it. -/
def readMember (r : RecordCells) (member : String × JsonValue) : Option RecordCells :=
  let (key, v) := member
  let key := JsonValue.unescape key
  if JsonValue.namesField key "number" then (readInt r.number v).map fun number => { r with number }
  else if JsonValue.namesField key "started_at" then
    (readTime r.startedAt v).map fun startedAt => { r with startedAt }
  else if JsonValue.namesField key "duration" then
    (readInt r.duration.ns v).map fun ns => { r with duration := ⟨ns⟩ }
  else if JsonValue.namesField key "roots" then (readTexts r.roots v).map fun roots => { r with roots }
  else if JsonValue.namesField key "hierarchies" then
    (readTexts r.hierarchies v).map fun hierarchies => { r with hierarchies }
  else if JsonValue.namesField key "error" then (readText r.error v).map fun error => { r with error }
  else some r

/-- Reads a record over its old value. -/
def readRecord (old : RecordCells) : JsonValue → Option RecordCells
  | .null => some old
  | .object members => members.foldlM readMember old
  | _ => none

/-- Reads the list of builds over its old value; `null` empties it. -/
def readBuilds (old : Cells RecordCells) : JsonValue → Option (Cells RecordCells)
  | .null => some {}
  | .array items => old.read {} readRecord items
  | _ => none

/-- Reads a history from the value of a history file. -/
def ofJson : JsonValue → Option History
  | .null => some {}
  | .object members =>
    (members.foldlM (fun (builds : Cells RecordCells) (key, v) =>
      if JsonValue.namesField (JsonValue.unescape key) "builds" then readBuilds builds v
      else some builds) {}).map fun (builds : Cells RecordCells) =>
        { builds := builds.items.map RecordCells.record }
  | _ => none

/-- The history a file's text holds; empty when the text is not a history. -/
def ofText (text : String) : History :=
  ((JsonValue.parse? text).bind ofJson).getD {}

end History

end StableWatch
