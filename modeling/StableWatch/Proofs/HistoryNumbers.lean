import StableWatch.History.Store
/-!
# Numbering recorded builds

The history numbers a recorded build one past the last recorded one, or `1` when there is none,
in signed 64 bits, and keeps the last twenty builds (`History.record`).

* `record_numbers_past_history` — **one recorded build.** Let the recorded numbers be signed
  64-bit integers that increase. The new number lies above all of them exactly when the last one
  is not the largest such integer, `2^63 - 1`; past that one the number wraps to the smallest,
  `-2^63` (`record_after_largest_number`). The history after is the one before followed by the new
  build, cut to its last twenty; its numbers still fit in 64 bits, and they still increase unless
  the last number was the largest.
* `run_keeps_numbers_increasing` — **a whole run** of recorded builds and clearings keeps the
  numbers increasing as long as it records no more builds than numbers are left above the last
  one (`headroom`): each recorded build uses one up, and clearing starts again from `1`.

A history read from a file holds only numbers that fit (`ofText_numbersFit`): reading a number
refuses one outside 64 bits, and every other way of filling a record keeps a number already read
or the default `0`.
-/

namespace StableWatch.History

/-- A number is a signed 64-bit integer. -/
def Fits (n : Int) : Prop :=
  -Int.pow 2 63 ≤ n ∧ n < Int.pow 2 63

/-- Every build number of the history is a signed 64-bit integer. -/
def NumbersFit (h : History) : Prop :=
  ∀ b ∈ h.builds, Fits b.number

/-- The build numbers of the history increase strictly, oldest first. -/
def NumbersIncrease (h : History) : Prop :=
  h.builds.Pairwise fun earlier later => earlier.number < later.number

theorem pow_63 : Int.pow 2 63 = 9223372036854775808 := by decide

theorem pow_64 : Int.pow 2 64 = 18446744073709551616 := by decide

/-! ### Wrapping in 64 bits -/

/-- Wrapping gives a signed 64-bit integer. -/
theorem fits_wrap64 (n : Int) : Fits (wrap64 n) := by
  simp only [Fits, wrap64, pow_63, pow_64]
  split <;> omega

/-- Wrapping leaves a signed 64-bit integer as it is. -/
theorem wrap64_of_fits {n : Int} (fits : Fits n) : wrap64 n = n := by
  simp only [Fits, pow_63] at fits
  simp only [wrap64, pow_63, pow_64]
  split <;> omega

/-- One past the largest signed 64-bit integer wraps to the smallest. -/
theorem wrap64_largest_succ : wrap64 (Int.pow 2 63 - 1 + 1) = -Int.pow 2 63 := by decide

/-! ### The next number -/

theorem nextNumber_of_nil {h : History} (empty : h.builds = []) : h.nextNumber = 1 := by
  simp [nextNumber, empty]

theorem nextNumber_of_getLast? {h : History} {last : BuildRecord}
    (found : h.builds.getLast? = some last) : h.nextNumber = wrap64 (last.number + 1) := by
  simp [nextNumber, found]

theorem fits_nextNumber (h : History) : Fits h.nextNumber := by
  unfold nextNumber
  split
  · exact fits_wrap64 _
  · unfold Fits
    rw [pow_63]
    omega

/-- Below the largest signed 64-bit integer, the next number is one past the last. -/
theorem nextNumber_of_not_largest {h : History} (fits : h.NumbersFit) {last : BuildRecord}
    (found : h.builds.getLast? = some last) (notLargest : last.number ≠ Int.pow 2 63 - 1) :
    h.nextNumber = last.number + 1 := by
  have lastFits := fits last (List.mem_of_getLast? found)
  have nextFits : Fits (last.number + 1) := by
    unfold Fits at lastFits ⊢
    rw [pow_63] at lastFits notLargest ⊢
    omega
  rw [nextNumber_of_getLast? found, wrap64_of_fits nextFits]

/-- In increasing numbers, every earlier build is numbered below the last. -/
theorem number_lt_last {h : History} (increasing : h.NumbersIncrease) {last : BuildRecord}
    (found : h.builds.getLast? = some last) :
    ∀ b ∈ h.builds, b ≠ last → b.number < last.number := by
  obtain ⟨earlier, split⟩ := List.getLast?_eq_some_iff.mp found
  have ordered := increasing
  unfold NumbersIncrease at ordered
  rw [split, List.pairwise_append] at ordered
  intro b member different
  rw [split] at member
  rcases List.mem_append.mp member with before | isLast
  · exact ordered.2.2 b before last List.mem_cons_self
  · exact absurd (List.mem_singleton.mp isLast) different

/-- **The next number lies above every recorded one exactly when the last is not the largest.** -/
theorem lt_nextNumber_iff {h : History} (fits : h.NumbersFit) (increasing : h.NumbersIncrease) :
    (∀ b ∈ h.builds, b.number < h.nextNumber) ↔
      ∀ last ∈ h.last?, last.number ≠ Int.pow 2 63 - 1 := by
  cases found : h.builds.getLast? with
  | none =>
    have empty : h.builds = [] := List.getLast?_eq_none_iff.mp found
    simp [last?, empty]
  | some last =>
    have lastMember : last ∈ h.builds := List.mem_of_getLast? found
    have lastFits := fits last lastMember
    simp only [last?, found, Option.mem_def, Option.some.injEq, forall_eq']
    constructor
    · -- the largest number wraps to the smallest, below the last one
      intro above largest
      have wrapped := above last lastMember
      rw [nextNumber_of_getLast? found, largest, wrap64_largest_succ, ← largest] at wrapped
      unfold Fits at lastFits
      omega
    · intro notLargest b member
      rw [nextNumber_of_not_largest fits found notLargest]
      by_cases same : b = last
      · rw [same]
        omega
      · have below := number_lt_last increasing found b member same
        omega

/-! ### Recording one build -/

theorem record_builds (h : History) (r : BuildRecord) :
    (h.record r).2.builds =
      (h.builds ++ [{ r with number := h.nextNumber }]).drop
        (h.builds.length + 1 - maxBuilds) := by
  simp [record]

/-- The builds kept are the last ones of the history followed by the new build. -/
theorem record_builds_suffix (h : History) (r : BuildRecord) :
    (h.record r).2.builds <:+ h.builds ++ [{ r with number := h.nextNumber }] := by
  rw [record_builds]
  exact List.drop_suffix _ _

/-- Twenty builds are kept, or all of them when there are fewer. -/
theorem length_record_builds (h : History) (r : BuildRecord) :
    (h.record r).2.builds.length = min (h.builds.length + 1) maxBuilds := by
  rw [record_builds, List.length_drop, List.length_append, List.length_singleton]
  unfold maxBuilds
  omega

/-- The new build is the last one kept. -/
theorem record_last? (h : History) (r : BuildRecord) :
    (h.record r).2.last? = some { r with number := h.nextNumber } := by
  unfold last?
  have kept : ¬ (h.builds ++ [{ r with number := h.nextNumber }]).length ≤
      h.builds.length + 1 - maxBuilds := by
    rw [List.length_append, List.length_singleton]
    unfold maxBuilds
    omega
  rw [record_builds, List.getLast?_drop, if_neg kept, List.getLast?_concat]

theorem NumbersFit.record {h : History} (fits : h.NumbersFit) (r : BuildRecord) :
    (h.record r).2.NumbersFit := by
  intro b member
  rcases List.mem_append.mp ((record_builds_suffix h r).subset member) with old | new
  · exact fits b old
  · rw [List.mem_singleton.mp new]
    exact fits_nextNumber h

theorem NumbersIncrease.record {h : History} (fits : h.NumbersFit)
    (increasing : h.NumbersIncrease) (notLargest : ∀ last ∈ h.last?, last.number ≠ Int.pow 2 63 - 1)
    (r : BuildRecord) : (h.record r).2.NumbersIncrease := by
  have above := (lt_nextNumber_iff fits increasing).mpr notLargest
  have appended : (h.builds ++ [{ r with number := h.nextNumber }]).Pairwise
      fun earlier later : BuildRecord => earlier.number < later.number := by
    rw [List.pairwise_append]
    exact ⟨increasing, List.pairwise_singleton _ _,
      fun b member newer isNew => (List.mem_singleton.mp isNew) ▸ above b member⟩
  unfold NumbersIncrease
  rw [record_builds]
  exact appended.sublist (List.drop_sublist _ _)

/-- **Recording a build numbers it above the history, until the numbers run out.** Let the
recorded numbers be signed 64-bit integers that increase. Recording a build gives it a number above
every recorded one exactly when the last recorded number is not `2^63 - 1`, and `1` when nothing is
recorded. The history after is the history before followed by the new build, cut to its last
twenty; its numbers are signed 64-bit integers, and they increase when the last number before was
not `2^63 - 1`. -/
theorem record_numbers_past_history (h : History) (r : BuildRecord) (fits : h.NumbersFit)
    (increasing : h.NumbersIncrease) :
    ((∀ b ∈ h.builds, b.number < (h.record r).1) ↔
        ∀ last ∈ h.last?, last.number ≠ Int.pow 2 63 - 1) ∧
      (h.builds = [] → (h.record r).1 = 1) ∧
      (h.record r).2.builds <:+ h.builds ++ [{ r with number := (h.record r).1 }] ∧
      (h.record r).2.builds.length = min (h.builds.length + 1) maxBuilds ∧
      (h.record r).2.NumbersFit ∧
      ((∀ last ∈ h.last?, last.number ≠ Int.pow 2 63 - 1) → (h.record r).2.NumbersIncrease) :=
  ⟨lt_nextNumber_iff fits increasing, nextNumber_of_nil, record_builds_suffix h r,
    length_record_builds h r, fits.record r, fun notLargest => increasing.record fits notLargest r⟩

/-- A history of builds numbered `3` and `7`: the next build is numbered above both. -/
theorem record_after_three_and_seven :
    let h : History := { builds := [{ number := 3 }, { number := 7 }] }
    h.NumbersFit ∧ h.NumbersIncrease ∧
      (((∀ b ∈ h.builds, b.number < (h.record {}).1) ↔
          ∀ last ∈ h.last?, last.number ≠ Int.pow 2 63 - 1) ∧
        (h.builds = [] → (h.record {}).1 = 1) ∧
        (h.record {}).2.builds <:+ h.builds ++ [{ number := (h.record {}).1 }] ∧
        (h.record {}).2.builds.length = min (h.builds.length + 1) maxBuilds ∧
        (h.record {}).2.NumbersFit ∧
        ((∀ last ∈ h.last?, last.number ≠ Int.pow 2 63 - 1) → (h.record {}).2.NumbersIncrease)) := by
  intro h
  have fits : h.NumbersFit := by
    unfold NumbersFit Fits
    decide
  have increasing : h.NumbersIncrease := by
    unfold NumbersIncrease
    decide
  exact ⟨fits, increasing, record_numbers_past_history h {} fits increasing⟩

/-- A history whose last build carries the largest signed 64-bit integer numbers the next build
with the smallest, below every recorded number. -/
theorem record_after_largest_number :
    let h : History := { builds := [{ number := 9223372036854775807 }] }
    h.NumbersFit ∧ h.NumbersIncrease ∧
      h.record {} = (-9223372036854775808,
        { builds := [{ number := 9223372036854775807 }, { number := -9223372036854775808 }] }) := by
  intro h
  refine ⟨?_, ?_, by decide⟩
  · unfold NumbersFit Fits
    decide
  · unfold NumbersIncrease
    decide

/-! ### Runs of calls -/

/-- A call the owner of a history makes: record a build, or clear the history. -/
inductive Call where
  | record (r : BuildRecord)
  | clear

/-- A call that records a build. -/
def Call.isRecord : Call → Bool
  | .record _ => true
  | .clear => false

/-- Makes a call: recording keeps the history after, clearing empties it. -/
def Call.run : Call → History → History
  | .record r, h => (h.record r).2
  | .clear, _ => {}

/-- Makes calls one after another. -/
def runAll (calls : List Call) (h : History) : History :=
  calls.foldl (fun h call => call.run h) h

/-- How many more builds can be numbered before the numbers run out: those above the last
number, and at most those above `0`, since clearing starts again from `1`. -/
def headroom (h : History) : Int :=
  match h.builds.getLast? with
  | some last => Int.pow 2 63 - 1 - max 0 last.number
  | none => Int.pow 2 63 - 1

theorem headroom_of_nil {h : History} (empty : h.builds.getLast? = none) :
    h.headroom = Int.pow 2 63 - 1 := by
  simp [headroom, empty]

theorem headroom_of_getLast? {h : History} {last : BuildRecord}
    (found : h.builds.getLast? = some last) :
    h.headroom = Int.pow 2 63 - 1 - max 0 last.number := by
  simp [headroom, found]

theorem headroom_le (h : History) : h.headroom ≤ Int.pow 2 63 - 1 := by
  cases found : h.builds.getLast? with
  | none => exact Int.le_of_eq (headroom_of_nil found)
  | some last =>
    rw [headroom_of_getLast? found]
    omega

/-- With headroom left, the last number is not the largest. -/
theorem not_largest_of_headroom {h : History} (room : 0 < h.headroom) :
    ∀ last ∈ h.last?, last.number ≠ Int.pow 2 63 - 1 := by
  intro last found largest
  rw [headroom_of_getLast? found, largest] at room
  omega

/-- After a recording, the headroom is what is left above the new number. -/
theorem headroom_record_eq (h : History) (r : BuildRecord) :
    (h.record r).2.headroom = Int.pow 2 63 - 1 - max 0 h.nextNumber := by
  rw [headroom_of_getLast? (record_last? h r)]

/-- Recording a build uses up one number. -/
theorem headroom_record {h : History} (fits : h.NumbersFit) (room : 0 < h.headroom)
    (r : BuildRecord) : h.headroom - 1 ≤ (h.record r).2.headroom := by
  rw [headroom_record_eq]
  cases found : h.builds.getLast? with
  | none =>
    have first := nextNumber_of_nil (List.getLast?_eq_none_iff.mp found)
    have wasEmpty := headroom_of_nil found
    rw [pow_63] at wasEmpty ⊢
    omega
  | some last =>
    have notLargest := not_largest_of_headroom room last found
    rw [headroom_of_getLast? found] at room ⊢
    rw [nextNumber_of_not_largest fits found notLargest]
    omega

/-- What a run keeps: the numbers fit and increase, and the remaining recordings fit in the
headroom. -/
structure Numbering (h : History) (recordings : Nat) : Prop where
  fits : h.NumbersFit
  increasing : h.NumbersIncrease
  room : (recordings : Int) ≤ h.headroom

/-- One call keeps the numbering, with one recording fewer to come after a recording. -/
theorem Numbering.run {h : History} {recordings : Nat} (call : Call)
    (numbering : Numbering h (recordings + if call.isRecord then 1 else 0)) :
    Numbering (call.run h) recordings := by
  cases call with
  | record r =>
    show Numbering (h.record r).2 recordings
    have room := numbering.room
    simp only [Call.isRecord, if_true] at room
    -- room for one more recording means the last number is not the largest
    have notLargest := not_largest_of_headroom (by omega : 0 < h.headroom)
    refine ⟨numbering.fits.record r, numbering.increasing.record numbering.fits notLargest r, ?_⟩
    have used := headroom_record numbering.fits (by omega) r
    omega
  | clear =>
    refine ⟨fun b member => (by cases member), List.Pairwise.nil, ?_⟩
    have room := numbering.room
    have bound := headroom_le h
    simp only [Call.isRecord, Bool.false_eq_true, if_false, Nat.add_zero] at room
    rw [headroom_of_nil rfl]
    omega

/-- A run keeps the numbering while the recordings still to come fit in the headroom. -/
theorem Numbering.runAll :
    ∀ (calls : List Call) {h : History}, Numbering h (calls.filter Call.isRecord).length →
      Numbering (runAll calls h) 0
  | [], _, numbering => numbering
  | call :: rest, h, numbering => by
    refine Numbering.runAll rest (Numbering.run call ?_)
    cases recording : call.isRecord
    · simpa [recording, List.filter_cons] using numbering
    · simpa [recording, List.filter_cons] using numbering

/-- **A run that records no more builds than there is headroom keeps the numbers increasing.**
From a history whose numbers are signed 64-bit integers that increase, any run of recordings and
clearings that records at most `headroom` builds leaves numbers that are signed 64-bit integers
and increase. -/
theorem run_keeps_numbers_increasing (calls : List Call) {h : History} (fits : h.NumbersFit)
    (increasing : h.NumbersIncrease)
    (room : ((calls.filter Call.isRecord).length : Int) ≤ h.headroom) :
    (runAll calls h).NumbersFit ∧ (runAll calls h).NumbersIncrease :=
  have numbering := Numbering.runAll calls ⟨fits, increasing, room⟩
  ⟨numbering.fits, numbering.increasing⟩

/-! ### Histories read from a file -/

/-- Every result of a `mapM` in `Option` that succeeds comes from one of the inputs. -/
theorem exists_of_mapM_eq_some {α β : Type} {f : α → Option β} :
    ∀ {inputs : List α} {outputs : List β}, inputs.mapM f = some outputs →
      ∀ output ∈ outputs, ∃ input ∈ inputs, f input = some output
  | [], outputs, succeeded => by
    simp only [List.mapM_nil] at succeeded
    cases succeeded
    simp
  | input :: rest, outputs, succeeded => by
    rw [List.mapM_cons] at succeeded
    cases first : f input with
    | none =>
      rw [first] at succeeded
      cases succeeded
    | some result =>
      cases others : rest.mapM f with
      | none =>
        rw [first, others] at succeeded
        cases succeeded
      | some more =>
        rw [first, others] at succeeded
        cases succeeded
        intro output member
        rcases List.mem_cons.mp member with rfl | later
        · exact ⟨input, List.mem_cons_self, first⟩
        · obtain ⟨source, sourceMember, read⟩ := exists_of_mapM_eq_some others output later
          exact ⟨source, List.mem_cons_of_mem input sourceMember, read⟩

/-- A `foldlM` in `Option` that succeeds keeps what every step keeps. -/
theorem foldlM_invariant {α β : Type} {f : β → α → Option β} (P : β → Prop)
    (step : ∀ acc item result, P acc → f acc item = some result → P result) :
    ∀ {items : List α} {init result : β}, P init → items.foldlM f init = some result → P result
  | [], init, result, holds, folded => by
    simp only [List.foldlM_nil] at folded
    cases folded
    exact holds
  | item :: rest, init, result, holds, folded => by
    rw [List.foldlM_cons] at folded
    cases first : f init item with
    | none =>
      rw [first] at folded
      cases folded
    | some acc =>
      rw [first] at folded
      exact foldlM_invariant P step (step init item acc holds first) folded

/-- Reading an integer gives one only when it lies in 64 bits. -/
theorem fits_of_integerOf {literal : String} {n : Int} (read : integerOf literal = some n) :
    Fits n := by
  revert read
  unfold integerOf
  split
  split
  · simp
  · rw [Option.ite_none_right_eq_some]
    rintro ⟨inRange, given⟩
    rw [← Option.some.inj given]
    simpa [Fits] using inRange

theorem fits_of_readInt {old n : Int} {v : JsonValue} (oldFits : Fits old)
    (read : readInt old v = some n) : Fits n := by
  cases v with
  | null =>
    cases read
    exact oldFits
  | number literal => exact fits_of_integerOf read
  | _ => cases read

/-- Reading a member of a record keeps its number a signed 64-bit integer. -/
theorem fits_readMember {r result : RecordCells} {member : String × JsonValue}
    (fits : Fits r.number) (read : readMember r member = some result) : Fits result.number := by
  obtain ⟨key, v⟩ := member
  unfold readMember at read
  dsimp only at read
  split at read
  · obtain ⟨number, readNumber, rfl⟩ := Option.map_eq_some_iff.mp read
    exact fits_of_readInt fits readNumber
  -- every other member leaves the number as it was
  repeat' split at read
  rotate_right
  · cases read
    exact fits
  all_goals
    obtain ⟨_, _, rfl⟩ := Option.map_eq_some_iff.mp read
    exact fits

theorem fits_readRecord {old result : RecordCells} {v : JsonValue} (fits : Fits old.number)
    (read : readRecord old v = some result) : Fits result.number := by
  cases v with
  | null =>
    cases read
    exact fits
  | object members =>
    exact foldlM_invariant (fun r : RecordCells => Fits r.number)
      (fun _ _ _ holds stepped => fits_readMember holds stepped) fits read
  | _ => cases read

/-- The records a list holds, and those left in its storage, are numbered in 64 bits. -/
def CellsFit (cells : Cells RecordCells) : Prop :=
  ∀ r ∈ cells.items ++ cells.spare, Fits r.number

theorem getD_mem_or_eq {α : Type} (l : List α) (i : Nat) (d : α) : l.getD i d ∈ l ∨ l.getD i d = d := by
  rw [List.getD_eq_getElem?_getD]
  cases found : l[i]? with
  | none => exact Or.inr rfl
  | some x => exact Or.inl (List.mem_of_getElem? found)

theorem CellsFit.read {old result : Cells RecordCells} {items : List JsonValue}
    (fits : CellsFit old) (read : old.read {} readRecord items = some result) : CellsFit result := by
  unfold Cells.read at read
  split at read
  · cases read
    simp [CellsFit]
  · obtain ⟨records, mapped, rfl⟩ := Option.map_eq_some_iff.mp read
    -- a record read over a stored cell or over a blank one keeps its number in 64 bits
    have storedFits : ∀ r ∈ old.items ++ old.spare, Fits r.number := fits
    have readFits : ∀ r ∈ records, Fits r.number := by
      intro r member
      obtain ⟨⟨item, i⟩, -, readOne⟩ := exists_of_mapM_eq_some mapped r member
      refine fits_readRecord ?_ readOne
      rcases getD_mem_or_eq (old.items ++ old.spare) i {} with stored | blank
      · exact storedFits _ stored
      · rw [blank]
        unfold Fits
        rw [pow_63]
        decide
    intro r member
    rcases List.mem_append.mp member with fresh | spare
    · exact readFits r fresh
    · exact storedFits r (List.mem_of_mem_drop spare)

theorem CellsFit.readBuilds {old result : Cells RecordCells} {v : JsonValue} (fits : CellsFit old)
    (read : readBuilds old v = some result) : CellsFit result := by
  cases v with
  | null =>
    cases read
    simp [CellsFit]
  | array items => exact fits.read read
  | _ => cases read

/-- **A history read from a file is numbered in 64 bits.** -/
theorem ofText_numbersFit (text : String) : (ofText text).NumbersFit := by
  unfold ofText
  cases parsed : (JsonValue.parse? text).bind ofJson with
  | none => simp [NumbersFit]
  | some h =>
    simp only [Option.getD_some]
    obtain ⟨v, -, decoded⟩ := Option.bind_eq_some_iff.mp parsed
    cases v with
    | null =>
      cases decoded
      simp [NumbersFit]
    | object members =>
      obtain ⟨cells, folded, rfl⟩ := Option.map_eq_some_iff.mp decoded
      have cellsFit : CellsFit cells := by
        refine foldlM_invariant CellsFit (fun acc member result holds stepped => ?_)
          (by simp [CellsFit]) folded
        dsimp only at stepped
        split at stepped
        · exact holds.readBuilds stepped
        · cases stepped
          exact holds
      intro b member
      obtain ⟨r, stored, rfl⟩ := List.mem_map.mp member
      exact cellsFit r (List.mem_append_left _ stored)
    | _ => cases decoded

end StableWatch.History
