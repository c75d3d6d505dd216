import Mathlib
import StableWatch.Proofs.CleanPath
/-!
# Clean paths of both kinds and the walk to their parents

Cleaning a text keeps a list of components. A rooted text keeps components only; a relative one
may keep `..` components in front of them, and a relative text that keeps nothing is `.`. `Kept`
says which lists cleaning can keep, and `cleanText` writes one back as text. Then:

* cleaning writes what it keeps (`cleanChars_eq_cleanText`), what it keeps is `Kept`
  (`kept_components`), and it leaves the text of a `Kept` list alone (`cleanChars_cleanText`), so
  cleaning twice is cleaning once (`clean_clean`);
* the parent of a clean path drops its last component (`dir_toList_of_clean`); the root and `.`,
  which keep nothing, are their own parents.

A strict ancestor of a path is one that taking parents reaches from it before the parent of a
path is the path itself (`StrictAncestor`). Every step up drops one component of a clean path
(`depth_dir`), and a clean path has no more components than characters, so the walk that
`Roots.ancestors` takes is long enough: it lists exactly the strict ancestors of every clean
path (`Roots.mem_ancestors_iff_strictAncestor`), relative or not.
-/

namespace StableWatch.Path

/-! ### What cleaning keeps -/

/-- What cleaning can keep of a text: some `..` first, none in a rooted text, then components. -/
def Kept (rooted : Bool) (parts : List (List Char)) : Prop :=
  ∃ n comps, parts = List.replicate n parentPiece ++ comps ∧ (∀ piece ∈ comps, Component piece) ∧
    (rooted = true → n = 0)

/-- The text of kept components: after a slash for a rooted path, and `.` for a relative path
that keeps nothing. -/
def cleanText (rooted : Bool) (parts : List (List Char)) : List Char :=
  if rooted then rootedText parts else if parts = [] then ['.'] else joinPieces parts

/-- The stack of components while cleaning, top first: components over some `..`, none in a
rooted text. -/
def KeptStack (rooted : Bool) (stack : List (List Char)) : Prop :=
  ∃ n comps, stack = comps ++ List.replicate n parentPiece ∧ (∀ piece ∈ comps, Component piece) ∧
    (rooted = true → n = 0)

/-- A kept piece is a name of its own: not empty, without slash, not `.`. -/
theorem Kept.proper {rooted : Bool} {parts : List (List Char)} (kept : Kept rooted parts) :
    ∀ piece ∈ parts, piece ≠ [] ∧ '/' ∉ piece ∧ piece ≠ ['.'] := by
  obtain ⟨n, comps, rfl, components, -⟩ := kept
  intro piece member
  rcases List.mem_append.mp member with parent | component
  · rw [List.eq_of_mem_replicate parent]
    decide
  · exact ⟨(components piece component).1, (components piece component).2.1,
      (components piece component).2.2.1⟩

/-- A rooted text keeps components only. -/
theorem kept_true_iff {parts : List (List Char)} :
    Kept true parts ↔ ∀ piece ∈ parts, Component piece := by
  constructor
  · rintro ⟨n, comps, rfl, components, rooted⟩
    rw [rooted rfl, List.replicate_zero, List.nil_append]
    exact components
  · exact fun components => ⟨0, parts, rfl, components, fun _ => rfl⟩

theorem Kept.dropLast {rooted : Bool} {parts : List (List Char)} (kept : Kept rooted parts) :
    Kept rooted parts.dropLast := by
  obtain ⟨n, comps, rfl, components, rootedNone⟩ := kept
  by_cases empty : comps = []
  · subst empty
    refine ⟨n - 1, [], ?_, by simp, fun rooted => by rw [rootedNone rooted]⟩
    simp [List.dropLast_replicate]
  · refine ⟨n, comps.dropLast, List.dropLast_append_of_ne_nil empty, fun piece member =>
      components piece (List.mem_of_mem_dropLast member), rootedNone⟩

/-- The stack read from the bottom is what is kept. -/
theorem KeptStack.reverse {rooted : Bool} {stack : List (List Char)}
    (kept : KeptStack rooted stack) : Kept rooted stack.reverse := by
  obtain ⟨n, comps, rfl, components, rootedNone⟩ := kept
  refine ⟨n, comps.reverse, by simp, fun piece member => components piece
    (List.mem_reverse.mp member), rootedNone⟩

/-- **One step of cleaning keeps the stack kept.** A component goes on top; `..` removes a
component on top, stacks on `..` or on nothing in a relative text, and vanishes at the root. -/
theorem KeptStack.push {rooted : Bool} {stack : List (List Char)} {piece : List Char}
    (kept : KeptStack rooted stack) (noSlash : '/' ∉ piece) :
    KeptStack rooted (push rooted stack piece) := by
  obtain ⟨n, comps, rfl, components, rootedNone⟩ := kept
  by_cases skipped : piece = [] ∨ piece = ['.']
  · unfold Path.push
    rw [if_pos skipped]
    exact ⟨n, comps, rfl, components, rootedNone⟩
  by_cases parent : piece = parentPiece
  · unfold Path.push
    rw [if_neg skipped, if_pos parent]
    cases comps with
    | cons top rest =>
      -- a component on top is removed
      have notParent : top ≠ parentPiece := (components top List.mem_cons_self).2.2.2
      simp only [List.cons_append, if_neg notParent]
      exact ⟨n, rest, rfl, fun q member => components q (List.mem_cons_of_mem top member),
        rootedNone⟩
    | nil =>
      cases n with
      | zero =>
        cases rooted
        · exact ⟨1, [], rfl, by simp, fun absurd => Bool.noConfusion absurd⟩
        · exact ⟨0, [], rfl, by simp, fun _ => rfl⟩
      | succ m =>
        -- only a relative text has `..` on its stack, and it stacks another one
        have relative : rooted = false := by
          cases rooted
          · rfl
          · exact absurd (rootedNone rfl) (Nat.succ_ne_zero m)
        refine ⟨m + 2, [], ?_, by simp, fun rootedTrue => by simp_all⟩
        simp [List.replicate_succ]
  · unfold Path.push
    rw [if_neg skipped, if_neg parent]
    refine ⟨n, piece :: comps, rfl, fun q member => ?_, rootedNone⟩
    rcases List.mem_cons.mp member with rfl | below
    · rw [not_or] at skipped
      exact ⟨skipped.1, noSlash, skipped.2, parent⟩
    · exact components q below

/-- **What cleaning keeps is kept.** -/
theorem kept_components (rooted : Bool) (text : List Char) :
    Kept rooted (components rooted text) := by
  suffices stacked : ∀ (pieces' : List (List Char)) (stack : List (List Char)),
      KeptStack rooted stack → (∀ piece ∈ pieces', '/' ∉ piece) →
      KeptStack rooted (pieces'.foldl (push rooted) stack) from
    (stacked (pieces text) [] ⟨0, [], rfl, by simp, fun _ => rfl⟩
      (fun _ => slash_not_mem_of_mem_pieces)).reverse
  intro pieces'
  induction pieces' with
  | nil => exact fun stack kept _ => kept
  | cons piece more ih =>
    intro stack kept noSlash
    exact ih _ (kept.push (noSlash piece List.mem_cons_self))
      (fun q member => noSlash q (List.mem_cons_of_mem piece member))

/-! ### Writing kept components back -/

/-- In a relative text, `..` pieces pushed on nothing all stay. -/
theorem foldl_push_parents (n : Nat) :
    (List.replicate n parentPiece).foldl (push false) [] = List.replicate n parentPiece := by
  induction n with
  | zero => rfl
  | succ m ih =>
    conv_lhs => rw [List.replicate_succ', List.foldl_append, ih, List.foldl_cons, List.foldl_nil]
    cases m with
    | zero => rfl
    | succ k => simp [Path.push, List.replicate_succ, parentPiece]

/-- Pushing kept components one after another stacks them all. -/
theorem foldl_push_kept {rooted : Bool} {parts : List (List Char)} (kept : Kept rooted parts) :
    parts.foldl (push rooted) [] = parts.reverse := by
  obtain ⟨n, comps, rfl, components, rootedNone⟩ := kept
  have parents :
      (List.replicate n parentPiece).foldl (push rooted) [] = List.replicate n parentPiece := by
    cases rooted
    · exact foldl_push_parents n
    · rw [rootedNone rfl]
      rfl
  rw [List.foldl_append, parents, foldl_push_components components]
  simp

theorem joinPieces_eq_nil_iff {parts : List (List Char)}
    (nonemptyPieces : ∀ piece ∈ parts, piece ≠ []) : joinPieces parts = [] ↔ parts = [] :=
  ⟨fun joined => by_contra fun nonempty => joinPieces_ne_nil nonemptyPieces nonempty joined,
    fun empty => by rw [empty]; rfl⟩

theorem head?_joinPieces {first : List Char} (rest : List (List Char)) (nonempty : first ≠ []) :
    (joinPieces (first :: rest)).head? = first.head? := by
  obtain ⟨c, more, rfl⟩ := List.exists_cons_of_ne_nil nonempty
  cases rest <;> rfl

/-- Cleaning the text of kept components keeps them again. -/
theorem components_cleanText {rooted : Bool} {parts : List (List Char)}
    (kept : Kept rooted parts) : components rooted (cleanText rooted parts) = parts := by
  have noSlash : ∀ piece ∈ parts, '/' ∉ piece := fun piece member => (kept.proper piece member).2.1
  unfold Path.components
  by_cases empty : parts = []
  · subst empty
    cases rooted <;> rfl
  cases rooted
  · simp only [cleanText, Bool.false_eq_true, if_false, if_neg empty]
    rw [pieces_joinPieces empty noSlash, foldl_push_kept kept, List.reverse_reverse]
  · have split : pieces (rootedText parts) = [] :: parts := by
      simp [rootedText, pieces, pieces_joinPieces empty noSlash]
    simp only [cleanText, if_true]
    rw [split, List.foldl_cons, push_nil, foldl_push_kept kept, List.reverse_reverse]

/-- The text of kept components starts at the root exactly when they are a rooted path's. -/
theorem head_cleanText {rooted : Bool} {parts : List (List Char)} (kept : Kept rooted parts) :
    decide ((cleanText rooted parts).head? = some '/') = rooted := by
  cases rooted
  · rcases parts with _ | ⟨first, rest⟩
    · decide
    · obtain ⟨nonempty, noSlash, -⟩ := kept.proper first List.mem_cons_self
      obtain ⟨c, more, rfl⟩ := List.exists_cons_of_ne_nil nonempty
      have notSlash : c ≠ '/' := fun same => noSlash (same ▸ List.mem_cons_self)
      simp [cleanText, head?_joinPieces rest nonempty, notSlash]
  · simp [cleanText, rootedText]

/-- **Cleaning writes what it keeps.** -/
theorem cleanChars_eq_cleanText (text : List Char) :
    cleanChars text = cleanText (decide (text.head? = some '/'))
      (components (decide (text.head? = some '/')) text) := by
  by_cases rooted : text.head? = some '/'
  · simp only [rooted, decide_true]
    rw [cleanChars_of_head rooted]
    rfl
  · have nonemptyPieces : ∀ piece ∈ components false text, piece ≠ [] :=
      fun piece member => ((kept_components false text).proper piece member).1
    simp [cleanChars, rooted, cleanText, joinPieces_eq_nil_iff nonemptyPieces]

/-- Cleaning leaves the text of kept components as it is. -/
theorem cleanChars_cleanText {rooted : Bool} {parts : List (List Char)}
    (kept : Kept rooted parts) : cleanChars (cleanText rooted parts) = cleanText rooted parts := by
  rw [cleanChars_eq_cleanText, head_cleanText kept, components_cleanText kept]

/-- A cleaned path is the text of what cleaning keeps of it. -/
theorem clean_toList (path : String) :
    (clean path).toList = cleanText (isAbs path) (components (isAbs path) path.toList) := by
  rw [clean, String.toList_ofList, cleanChars_eq_cleanText]
  rfl

/-- **Cleaning twice is cleaning once.** -/
theorem clean_clean (path : String) : clean (clean path) = clean path := by
  have kept := kept_components (isAbs path) path.toList
  rw [← String.toList_inj, clean, String.toList_ofList, clean_toList, cleanChars_cleanText kept]

/-- The parent of a path is the clean text up to its last slash. -/
theorem dir_eq_clean (path : String) :
    dir path = clean (String.ofList (throughLastSlash path.toList)) := by
  rw [dir, clean, String.toList_ofList]

theorem clean_dir (path : String) : clean (dir path) = dir path := by
  rw [dir_eq_clean, clean_clean]

/-! ### The parent of a clean path -/

theorem throughLastSlash_of_slash_not_mem {text : List Char} (noSlash : '/' ∉ text) :
    throughLastSlash text = [] := by
  have dropped : text.reverse.dropWhile (· ≠ '/') = [] := by
    rw [List.dropWhile_eq_nil_iff]
    intro c member
    simp only [ne_eq, decide_eq_true_eq]
    rintro rfl
    exact noSlash (List.mem_reverse.mp member)
  rw [throughLastSlash, dropped, List.reverse_nil]

/-- A trailing slash changes nothing once cleaned, in a relative path too. -/
theorem cleanChars_cleanText_slash {rooted : Bool} {parts : List (List Char)}
    (kept : Kept rooted parts) (nonempty : parts ≠ []) :
    cleanChars (cleanText rooted parts ++ ['/']) = cleanText rooted parts := by
  cases rooted
  · have noSlash : ∀ piece ∈ parts, '/' ∉ piece :=
      fun piece member => (kept.proper piece member).2.1
    have text : cleanText false parts = joinPieces parts := by simp [cleanText, nonempty]
    have head : decide ((joinPieces parts ++ ['/']).head? = some '/') = false := by
      have starts := head_cleanText kept
      obtain ⟨c, more, split⟩ := List.exists_cons_of_ne_nil
        (joinPieces_ne_nil (fun piece member => (kept.proper piece member).1) nonempty)
      rw [text, split] at starts
      rw [split]
      simpa using starts
    have split : pieces (joinPieces parts ++ ['/']) = parts ++ [[]] := by
      rw [pieces_append_slash, pieces_joinPieces nonempty noSlash]
      rfl
    rw [text, cleanChars_eq_cleanText, head, Path.components, split, List.foldl_append,
      foldl_push_kept kept]
    simp [push_nil, cleanText, nonempty]
  · exact cleanChars_rootedText_slash (kept_true_iff.mp kept) nonempty

/-- **The parent of a clean path drops its last component**; the root and `.`, which keep
nothing, are their own parents. -/
theorem cleanChars_throughLastSlash_cleanText {rooted : Bool} {parts : List (List Char)}
    (kept : Kept rooted parts) :
    cleanChars (throughLastSlash (cleanText rooted parts)) = cleanText rooted parts.dropLast := by
  cases rooted
  · rcases List.eq_nil_or_concat parts with rfl | ⟨init, last, rfl⟩
    · rfl
    rw [List.concat_eq_append] at kept ⊢
    have lastNoSlash : '/' ∉ last := (kept.proper last (by simp)).2.1
    rw [List.dropLast_concat]
    by_cases empty : init = []
    · -- the path is one name, whose parent is `.`
      subst empty
      have text : cleanText false ([] ++ [last]) = last := by simp [cleanText, joinPieces]
      rw [text, throughLastSlash_of_slash_not_mem lastNoSlash]
      rfl
    · have text : cleanText false (init ++ [last]) = cleanText false init ++ '/' :: last := by
        simp [cleanText, empty, joinPieces_append empty (List.cons_ne_nil last []), joinPieces]
      rw [text, throughLastSlash_append lastNoSlash]
      exact cleanChars_cleanText_slash (by simpa using kept.dropLast) empty
  · have text : (String.ofList (rootedText parts)).toList = rootedText parts :=
      String.toList_ofList
    have walked := dir_toList_rootedText (kept_true_iff.mp kept) text
    rwa [dir, text, String.toList_ofList] at walked

theorem Kept.length_le {rooted : Bool} {parts : List (List Char)} (kept : Kept rooted parts) :
    parts.length ≤ (cleanText rooted parts).length := by
  have joined := length_le_length_joinPieces fun piece member => (kept.proper piece member).1
  unfold cleanText
  split_ifs with rootedTrue empty
  · simp only [rootedText, List.length_cons]
    omega
  · simp [empty]
  · exact joined

/-! ### The depth of a clean path -/

/-- How many components a path keeps once cleaned. -/
def depth (path : String) : Nat :=
  (components (isAbs path) path.toList).length

section Clean

variable {path : String} (cleanPath : clean path = path)
include cleanPath

/-- A clean path is the text of what it keeps. -/
theorem toList_of_clean :
    path.toList = cleanText (isAbs path) (components (isAbs path) path.toList) := by
  conv_lhs => rw [← cleanPath]
  exact clean_toList path

theorem dir_toList_of_clean :
    (dir path).toList = cleanText (isAbs path) (components (isAbs path) path.toList).dropLast := by
  rw [dir, String.toList_ofList]
  conv_lhs => rw [toList_of_clean cleanPath]
  exact cleanChars_throughLastSlash_cleanText (kept_components _ _)

/-- Going up keeps a clean path rooted or relative. -/
theorem isAbs_dir_of_clean : isAbs (dir path) = isAbs path := by
  have starts := head_cleanText (kept_components (isAbs path) path.toList).dropLast
  rw [← dir_toList_of_clean cleanPath] at starts
  exact starts

/-- **Every step up drops one component.** -/
theorem depth_dir : depth (dir path) = depth path - 1 := by
  unfold depth
  rw [isAbs_dir_of_clean cleanPath, dir_toList_of_clean cleanPath,
    components_cleanText (kept_components (isAbs path) path.toList).dropLast, List.length_dropLast]

/-- A clean path is its own parent exactly when it keeps nothing: it is the root or `.`. -/
theorem dir_eq_self_iff : dir path = path ↔ depth path = 0 := by
  constructor
  · intro fixed
    have dropped := depth_dir cleanPath
    rw [fixed] at dropped
    omega
  · intro nothing
    have empty : components (isAbs path) path.toList = [] := List.eq_nil_of_length_eq_zero nothing
    have text := toList_of_clean cleanPath
    rw [empty] at text
    rw [← String.toList_inj, dir_toList_of_clean cleanPath, empty, text]
    rfl

/-- A clean path keeps no more components than it has characters. -/
theorem depth_le_length : depth path ≤ path.length := by
  have bound := (kept_components (isAbs path) path.toList).length_le
  rw [← toList_of_clean cleanPath, String.length_toList] at bound
  exact bound

end Clean

/-! ### The walk up -/

/-- One step up: from a path to its parent, when that is another path. -/
def ParentStep (path parent : String) : Prop :=
  dir path = parent ∧ parent ≠ path

/-- A strict ancestor of a path: a path that taking parents reaches from it before the parent of
a path is the path itself. -/
def StrictAncestor (ancestor path : String) : Prop :=
  Relation.TransGen ParentStep path ancestor

/-- A strict ancestor is the parent, or a strict ancestor of the parent, of a path that is not
its own parent. -/
theorem strictAncestor_iff {ancestor path : String} :
    StrictAncestor ancestor path ↔
      dir path ≠ path ∧ (ancestor = dir path ∨ StrictAncestor ancestor (dir path)) := by
  unfold StrictAncestor
  rw [Relation.TransGen.head'_iff]
  constructor
  · rintro ⟨parent, ⟨rfl, moved⟩, rest⟩
    exact ⟨moved, Relation.reflTransGen_iff_eq_or_transGen.mp rest⟩
  · rintro ⟨moved, reached⟩
    refine ⟨dir path, ⟨rfl, moved⟩, Relation.reflTransGen_iff_eq_or_transGen.mpr reached⟩

theorem StrictAncestor.trans {first second third : String} (above : StrictAncestor first second)
    (above' : StrictAncestor second third) : StrictAncestor first third :=
  Relation.TransGen.trans above' above

/-- A strict ancestor is a parent, so it is clean. -/
theorem StrictAncestor.clean_eq {ancestor path : String} (above : StrictAncestor ancestor path) :
    clean ancestor = ancestor := by
  induction above with
  | single step =>
    rw [← step.1]
    exact clean_dir _
  | tail _ step _ =>
    rw [← step.1]
    exact clean_dir _

theorem ParentStep.depth_lt {path parent : String} (cleanPath : clean path = path)
    (step : ParentStep path parent) : depth parent < depth path := by
  obtain ⟨rfl, moved⟩ := step
  have dropped := depth_dir cleanPath
  have kept : depth path ≠ 0 := fun nothing => moved ((dir_eq_self_iff cleanPath).mpr nothing)
  omega

/-- Going up from a clean path ends: every strict ancestor keeps fewer components. -/
theorem StrictAncestor.depth_lt {ancestor path : String} (cleanPath : clean path = path)
    (above : StrictAncestor ancestor path) : depth ancestor < depth path := by
  induction above with
  | single step => exact step.depth_lt cleanPath
  | tail below step ih => exact lt_trans (step.depth_lt (StrictAncestor.clean_eq below)) ih

theorem strictAncestor_irrefl {path : String} (cleanPath : clean path = path) :
    ¬ StrictAncestor path path :=
  fun above => lt_irrefl _ (above.depth_lt cleanPath)

end StableWatch.Path

namespace StableWatch.Roots

open StableWatch.Path

/-- With enough steps, the walk from a clean path lists its strict ancestors. -/
theorem mem_ancestorsWithin_iff {ancestor : String} :
    ∀ (fuel : Nat) {path : String}, clean path = path → depth path ≤ fuel →
      (ancestor ∈ ancestorsWithin fuel path ↔ StrictAncestor ancestor path)
  | 0, path, cleanPath, shallow => by
    have fixed : dir path = path := (dir_eq_self_iff cleanPath).mpr (Nat.le_zero.mp shallow)
    rw [strictAncestor_iff]
    simp [ancestorsWithin, fixed]
  | fuel + 1, path, cleanPath, shallow => by
    rw [strictAncestor_iff]
    by_cases fixed : dir path = path
    · simp [ancestorsWithin, fixed]
    · have parentShallow : depth (dir path) ≤ fuel := by
        rw [depth_dir cleanPath]
        omega
      simp only [ancestorsWithin, if_neg fixed, List.mem_cons,
        mem_ancestorsWithin_iff fuel (clean_dir path) parentShallow]
      exact ⟨fun reached => ⟨fixed, reached⟩, fun reached => reached.2⟩

/-- **`ancestors` walks far enough**: it lists exactly the strict ancestors of a clean path. -/
theorem mem_ancestors_iff_strictAncestor {ancestor path : String} (cleanPath : clean path = path) :
    ancestor ∈ ancestors path ↔ StrictAncestor ancestor path :=
  mem_ancestorsWithin_iff _ cleanPath (Nat.le_succ_of_le (depth_le_length cleanPath))

theorem hasAncestorIn_iff_strictAncestor {set : List String} {path : String}
    (cleanPath : clean path = path) :
    hasAncestorIn set path = true ↔ ∃ ancestor ∈ set, StrictAncestor ancestor path := by
  simp only [hasAncestorIn, List.any_eq_true, List.contains_iff_mem,
    mem_ancestors_iff_strictAncestor cleanPath]
  exact ⟨fun ⟨ancestor, above, member⟩ => ⟨ancestor, member, above⟩,
    fun ⟨ancestor, member, above⟩ => ⟨ancestor, above, member⟩⟩

end StableWatch.Roots

namespace StableWatch.Path

/-- The strict ancestors of a clean absolute path are clean absolute paths. -/
theorem StrictAncestor.isCleanAbs {ancestor path : String} (cleanPath : IsCleanAbs path)
    (above : StrictAncestor ancestor path) : IsCleanAbs ancestor := by
  induction above with
  | single step =>
    rw [← step.1]
    exact cleanPath.dir
  | tail _ step ih =>
    rw [← step.1]
    exact ih.dir

/-- For clean absolute paths, `isAncestor` is the parent walk. -/
theorem isAncestor_iff_strictAncestor {ancestor path : String} (cleanAncestor : IsCleanAbs ancestor)
    (cleanPath : IsCleanAbs path) :
    isAncestor ancestor path = true ↔ StrictAncestor ancestor path := by
  rw [isAncestor_iff_mem_ancestors cleanAncestor cleanPath,
    Roots.mem_ancestors_iff_strictAncestor cleanPath.2]

end StableWatch.Path
