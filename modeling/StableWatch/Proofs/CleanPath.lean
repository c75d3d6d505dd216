import Mathlib
import StableWatch.Path.Basic
import StableWatch.Watch.Roots
/-!
# Clean absolute paths and their ancestors

A clean absolute path is a slash followed by components joined with single slashes, where a
component is non-empty, has no slash and is neither `.` nor `..` (`rootedText`). This module shows
that cleaning an absolute path gives exactly such a text (`clean_toList_of_isAbs`), and that such a
text is left as it is (`cleanChars_rootedText`). On them the lexical operations become operations
on the list of components:

* `dir` drops the last component (`dir_toList_rootedText`);
* the strict ancestors that `Roots.ancestors` walks to are the texts of the proper prefixes of the
  components (`mem_ancestors_rootedText`);
* the path with a separator is a prefix of another exactly when its components are a proper prefix
  of the other's, the root excepted, whose separator form `/` starts every absolute path.

Together: for clean absolute paths, walking up with `dir` and comparing with a trailing separator
agree (`mem_ancestors_iff`), which is what lets reduction by parent walk and substitution by root
prefix be compared at all.

Independently of cleaning, `isAncestor` is a strict order on all texts (`isAncestor_trans`,
`isAncestor_irrefl`), decreasing in length (`length_lt_of_isAncestor`).
-/

namespace StableWatch.Path

/-! ### Pieces of a text -/

theorem pieces_ne_nil (text : List Char) : pieces text ≠ [] := by
  cases text with
  | nil => simp [pieces]
  | cons c rest =>
    unfold pieces
    split_ifs
    · simp
    · split <;> simp

/-- A slash splits the pieces of a text in two. -/
theorem pieces_append_slash (front back : List Char) :
    pieces (front ++ '/' :: back) = pieces front ++ pieces back := by
  induction front with
  | nil => simp [pieces]
  | cons c rest ih =>
    by_cases slash : c = '/'
    · simp [pieces, slash, ih]
    · obtain ⟨first, more, split⟩ := List.exists_cons_of_ne_nil (pieces_ne_nil rest)
      simp [pieces, slash, ih, split]

/-- A text without slash is one piece. -/
theorem pieces_of_slash_not_mem {piece : List Char} (noSlash : '/' ∉ piece) :
    pieces piece = [piece] := by
  induction piece with
  | nil => simp [pieces]
  | cons c rest ih =>
    have notSlash : c ≠ '/' := fun same => noSlash (same ▸ List.mem_cons_self)
    have restNoSlash : '/' ∉ rest := fun member => noSlash (List.mem_cons_of_mem c member)
    simp [pieces, notSlash, ih restNoSlash]

/-- No piece holds a slash. -/
theorem slash_not_mem_of_mem_pieces {text piece : List Char} (member : piece ∈ pieces text) :
    '/' ∉ piece := by
  induction text generalizing piece with
  | nil => simp_all [pieces]
  | cons c rest ih =>
    by_cases slash : c = '/'
    · simp only [pieces, slash, if_true, List.mem_cons] at member
      rcases member with rfl | later
      · simp
      · exact ih later
    · obtain ⟨first, more, split⟩ := List.exists_cons_of_ne_nil (pieces_ne_nil rest)
      simp only [pieces, slash, if_false, split, List.mem_cons] at member
      have firstNoSlash : '/' ∉ first := ih (split ▸ List.mem_cons_self)
      rcases member with rfl | later
      · simp [Ne.symm slash, firstNoSlash]
      · exact ih (split ▸ List.mem_cons_of_mem first later)

theorem joinPieces_append {front back : List (List Char)} (frontNonempty : front ≠ [])
    (backNonempty : back ≠ []) :
    joinPieces (front ++ back) = joinPieces front ++ '/' :: joinPieces back := by
  induction front with
  | nil => exact absurd rfl frontNonempty
  | cons piece more ih =>
    cases more with
    | nil =>
      obtain ⟨first, rest, rfl⟩ := List.exists_cons_of_ne_nil backNonempty
      simp [joinPieces]
    | cons next rest =>
      have step := ih (List.cons_ne_nil next rest)
      rw [List.cons_append] at step
      show piece ++ '/' :: joinPieces (next :: (rest ++ back)) =
        (piece ++ '/' :: joinPieces (next :: rest)) ++ '/' :: joinPieces back
      rw [step]
      simp

/-- Joining pieces without slashes and splitting again gives them back. -/
theorem pieces_joinPieces {parts : List (List Char)} (nonempty : parts ≠ [])
    (noSlash : ∀ piece ∈ parts, '/' ∉ piece) : pieces (joinPieces parts) = parts := by
  induction parts with
  | nil => exact absurd rfl nonempty
  | cons piece more ih =>
    have pieceNoSlash := noSlash piece List.mem_cons_self
    cases more with
    | nil => simp [joinPieces, pieces_of_slash_not_mem pieceNoSlash]
    | cons next rest =>
      have restNoSlash : ∀ q ∈ next :: rest, '/' ∉ q :=
        fun q member => noSlash q (List.mem_cons_of_mem piece member)
      simp only [joinPieces]
      rw [pieces_append_slash, pieces_of_slash_not_mem pieceNoSlash,
        ih (List.cons_ne_nil next rest) restNoSlash]
      rfl

/-! ### Components and the texts of clean absolute paths -/

/-- A component a clean path can have: non-empty, without slash, neither `.` nor `..`. -/
def Component (piece : List Char) : Prop :=
  piece ≠ [] ∧ '/' ∉ piece ∧ piece ≠ ['.'] ∧ piece ≠ parentPiece

/-- The text of the absolute path with the given components. -/
def rootedText (parts : List (List Char)) : List Char :=
  '/' :: joinPieces parts

/-- A path is absolute and cleaning leaves it as it is. -/
def IsCleanAbs (path : String) : Prop :=
  isAbs path = true ∧ clean path = path

theorem push_nil (rooted : Bool) (stack : List (List Char)) : push rooted stack [] = stack := by
  simp [push]

/-- A component is pushed on the stack as it is. -/
theorem push_component {rooted : Bool} {stack : List (List Char)} {piece : List Char}
    (component : Component piece) : push rooted stack piece = piece :: stack := by
  obtain ⟨nonempty, -, notDot, notParent⟩ := component
  simp [push, nonempty, notDot, notParent]

theorem foldl_push_components {rooted : Bool} {parts : List (List Char)}
    (components : ∀ piece ∈ parts, Component piece) (stack : List (List Char)) :
    parts.foldl (push rooted) stack = parts.reverse ++ stack := by
  induction parts generalizing stack with
  | nil => rfl
  | cons piece more ih =>
    rw [List.foldl_cons, push_component (components piece List.mem_cons_self),
      ih (fun q member => components q (List.mem_cons_of_mem piece member))]
    simp

/-- Pushing a piece without slash on a stack of components, in a rooted path, leaves a stack of
components: `..` removes the top or vanishes at the root, and a component never is `..`. -/
theorem push_rooted_components {stack : List (List Char)} {piece : List Char}
    (components : ∀ q ∈ stack, Component q) (noSlash : '/' ∉ piece) :
    ∀ q ∈ push true stack piece, Component q := by
  by_cases skipped : piece = [] ∨ piece = ['.']
  · simpa [push, skipped] using components
  by_cases parent : piece = parentPiece
  · cases stack with
    | nil => simp [push, parent]
    | cons top rest =>
      have notParent : top ≠ parentPiece := (components top List.mem_cons_self).2.2.2
      simp only [push, parent, notParent, if_false, if_true]
      exact fun q member => components q (List.mem_cons_of_mem top member)
  · simp only [push, skipped, parent, if_false]
    intro q member
    rcases List.mem_cons.mp member with rfl | below
    · rw [not_or] at skipped
      exact ⟨skipped.1, noSlash, skipped.2, parent⟩
    · exact components q below

/-- The kept components of a rooted text are components. -/
theorem components_rooted (text : List Char) : ∀ q ∈ components true text, Component q := by
  suffices kept : ∀ (stack : List (List Char)) (remaining : List (List Char)),
      (∀ q ∈ stack, Component q) → (∀ piece ∈ remaining, '/' ∉ piece) →
      ∀ q ∈ remaining.foldl (push true) stack, Component q by
    intro q member
    rw [components, List.mem_reverse] at member
    exact kept [] (pieces text) (by simp) (fun _ => slash_not_mem_of_mem_pieces) q member
  intro stack remaining
  induction remaining generalizing stack with
  | nil => exact fun components _ => components
  | cons piece more ih =>
    intro components noSlash
    exact ih _ (push_rooted_components components (noSlash piece List.mem_cons_self))
      (fun q member => noSlash q (List.mem_cons_of_mem piece member))

theorem cleanChars_of_head {text : List Char} (head : text.head? = some '/') :
    cleanChars text = rootedText (components true text) := by
  simp [cleanChars, head, rootedText]

/-- The text of a clean absolute path is left as it is by cleaning. -/
theorem cleanChars_rootedText {parts : List (List Char)}
    (components : ∀ piece ∈ parts, Component piece) :
    cleanChars (rootedText parts) = rootedText parts := by
  rw [cleanChars_of_head rfl]
  congr 1
  by_cases empty : parts = []
  · subst empty
    simp [Path.components, rootedText, joinPieces, pieces, push_nil]
  · have nonempty : parts ≠ [] := empty
    have noSlash : ∀ piece ∈ parts, '/' ∉ piece := fun q member => (components q member).2.1
    have split : pieces (rootedText parts) = [] :: parts := by
      simp [rootedText, pieces, pieces_joinPieces nonempty noSlash]
    rw [Path.components, split, List.foldl_cons, push_nil, foldl_push_components components]
    simp

/-- The root is clean. -/
theorem cleanChars_root : cleanChars ['/'] = ['/'] :=
  cleanChars_rootedText (by simp : ∀ piece ∈ ([] : List (List Char)), Component piece)

/-- Cleaning an absolute path gives the text of its kept components. -/
theorem clean_toList_of_isAbs {path : String} (absolute : isAbs path = true) :
    (clean path).toList = rootedText (components true path.toList) := by
  have head : path.toList.head? = some '/' := by simpa [isAbs] using absolute
  simp [clean, cleanChars_of_head head]

theorem isCleanAbs_iff {path : String} :
    IsCleanAbs path ↔
      ∃ parts, (∀ piece ∈ parts, Component piece) ∧ path.toList = rootedText parts := by
  constructor
  · rintro ⟨absolute, fixed⟩
    refine ⟨components true path.toList, components_rooted path.toList, ?_⟩
    rw [← clean_toList_of_isAbs absolute, fixed]
  · rintro ⟨parts, components, text⟩
    refine ⟨by simp [isAbs, text, rootedText], ?_⟩
    rw [← String.toList_inj, clean, String.toList_ofList, text, cleanChars_rootedText components]

/-- Cleaning makes every absolute path clean. -/
theorem isCleanAbs_clean {path : String} (absolute : isAbs path = true) :
    IsCleanAbs (clean path) :=
  isCleanAbs_iff.mpr ⟨_, components_rooted path.toList, clean_toList_of_isAbs absolute⟩

theorem IsCleanAbs.clean_eq {path : String} (cleanAbs : IsCleanAbs path) : clean path = path :=
  cleanAbs.2

/-- A path joined below an absolute one is clean and absolute. -/
theorem isCleanAbs_join {first : String} (absolute : isAbs first = true) (second : String) :
    IsCleanAbs (join [first, second]) := by
  have head : first.toList.head? = some '/' := by simpa [isAbs] using absolute
  have nonempty : first ≠ "" := by
    rintro rfl
    simp at head
  have glued : isAbs (first ++ "/" ++ second) = true := by
    simp [isAbs, String.toList_append, List.head?_append, head]
  unfold join
  rw [List.dropWhile_cons_of_neg (by simpa using nonempty)]
  show IsCleanAbs (clean ("/".intercalate [first, second]))
  rw [String.intercalate_cons_cons, String.intercalate_singleton]
  exact isCleanAbs_clean glued

/-! ### The parent of a clean absolute path -/

/-- Everything up to the last slash, when the text after it has no slash. -/
theorem throughLastSlash_append {front tail : List Char} (noSlash : '/' ∉ tail) :
    throughLastSlash (front ++ '/' :: tail) = front ++ ['/'] := by
  have kept : ∀ c ∈ tail.reverse, (fun x => decide ¬x = '/') c = true := by
    intro c member
    simp only [decide_eq_true_eq]
    rintro rfl
    exact noSlash (List.mem_reverse.mp member)
  simp only [throughLastSlash, List.reverse_append, List.reverse_cons, List.append_assoc,
    List.singleton_append]
  rw [List.dropWhile_append_of_pos kept]
  simp [List.dropWhile]

theorem joinPieces_ne_nil {parts : List (List Char)} (nonemptyPieces : ∀ piece ∈ parts, piece ≠ [])
    (nonempty : parts ≠ []) : joinPieces parts ≠ [] := by
  obtain ⟨first, rest, rfl⟩ := List.exists_cons_of_ne_nil nonempty
  have firstNonempty := nonemptyPieces first List.mem_cons_self
  cases rest with
  | nil => simpa [joinPieces] using firstNonempty
  | cons next more => simp [joinPieces, firstNonempty]

/-- The text of a path with one more component. -/
theorem rootedText_concat {parts : List (List Char)} (nonempty : parts ≠ []) (last : List Char) :
    rootedText (parts ++ [last]) = rootedText parts ++ '/' :: last := by
  simp [rootedText, joinPieces_append nonempty (List.cons_ne_nil last []), joinPieces]

/-- A trailing slash changes nothing once cleaned. -/
theorem cleanChars_rootedText_slash {parts : List (List Char)}
    (components : ∀ piece ∈ parts, Component piece) (nonempty : parts ≠ []) :
    cleanChars (rootedText parts ++ ['/']) = rootedText parts := by
  rw [cleanChars_of_head rfl]
  have noSlash : ∀ piece ∈ parts, '/' ∉ piece := fun q member => (components q member).2.1
  have split : pieces (rootedText parts ++ ['/']) = [] :: (parts ++ [[]]) := by
    simp only [rootedText, List.cons_append, pieces, if_true]
    rw [pieces_append_slash, pieces_joinPieces nonempty noSlash]
    rfl
  rw [Path.components, split, List.foldl_cons, push_nil, List.foldl_append,
    foldl_push_components components]
  simp [push_nil]

/-- The parent of a clean absolute path drops its last component; the root is its own parent. -/
theorem dir_toList_rootedText {path : String} {parts : List (List Char)}
    (components : ∀ piece ∈ parts, Component piece) (text : path.toList = rootedText parts) :
    (dir path).toList = rootedText parts.dropLast := by
  rw [dir, String.toList_ofList, text]
  rcases List.eq_nil_or_concat parts with rfl | ⟨init, last, rfl⟩
  · exact cleanChars_root
  · rw [List.concat_eq_append] at components ⊢
    have lastNoSlash : '/' ∉ last := (components last (by simp)).2.1
    have initComponents : ∀ piece ∈ init, Component piece :=
      fun q member => components q (List.mem_append_left _ member)
    rw [List.dropLast_concat]
    by_cases empty : init = []
    · subst empty
      have single : rootedText [last] = [] ++ '/' :: last := by simp [rootedText, joinPieces]
      rw [List.nil_append, single, throughLastSlash_append lastNoSlash]
      exact cleanChars_root
    · rw [rootedText_concat empty, throughLastSlash_append lastNoSlash,
        cleanChars_rootedText_slash initComponents empty]

/-- The parent of a clean absolute path is one. -/
theorem IsCleanAbs.dir {path : String} (cleanPath : IsCleanAbs path) : IsCleanAbs (dir path) := by
  obtain ⟨parts, components, text⟩ := isCleanAbs_iff.mp cleanPath
  exact isCleanAbs_iff.mpr ⟨parts.dropLast,
    fun piece member => components piece (List.mem_of_mem_dropLast member),
    dir_toList_rootedText components text⟩

theorem length_rootedText_dropLast_lt {parts : List (List Char)}
    (components : ∀ piece ∈ parts, Component piece) (nonempty : parts ≠ []) :
    (rootedText parts.dropLast).length < (rootedText parts).length := by
  obtain ⟨init, last, rfl⟩ := (List.eq_nil_or_concat parts).resolve_left nonempty
  rw [List.concat_eq_append] at components ⊢
  rw [List.dropLast_concat]
  by_cases empty : init = []
  · subst empty
    have lastNonempty : last ≠ [] := (components last (by simp)).1
    simpa [rootedText, joinPieces, List.length_pos_iff] using lastNonempty
  · rw [rootedText_concat empty]
    simp

theorem length_le_length_joinPieces {parts : List (List Char)}
    (nonemptyPieces : ∀ piece ∈ parts, piece ≠ []) : parts.length ≤ (joinPieces parts).length := by
  induction parts with
  | nil => simp
  | cons first more ih =>
    have firstNonempty := nonemptyPieces first List.mem_cons_self
    have moreNonempty : ∀ q ∈ more, q ≠ [] :=
      fun q member => nonemptyPieces q (List.mem_cons_of_mem first member)
    have firstLength : 1 ≤ first.length := List.length_pos_iff.mpr firstNonempty
    cases more with
    | nil => simpa [joinPieces] using firstLength
    | cons next rest =>
      have restLength := ih moreNonempty
      simp only [joinPieces, List.length_append, List.length_cons] at restLength ⊢
      omega

/-! ### Ancestors -/

/-- The parents walked to from a clean absolute path, with enough steps, are the texts of the
proper prefixes of its components. -/
theorem mem_ancestorsWithin_rootedText {ancestor : String} :
    ∀ (fuel : Nat) {path : String} {parts : List (List Char)},
      (∀ piece ∈ parts, Component piece) → path.toList = rootedText parts →
      parts.length ≤ fuel →
      (ancestor ∈ Roots.ancestorsWithin fuel path ↔
        ∃ k < parts.length, ancestor.toList = rootedText (parts.take k))
  | 0, path, parts, _, _, short => by
    have empty : parts = [] := List.eq_nil_of_length_eq_zero (Nat.le_zero.mp short)
    simp [Roots.ancestorsWithin, empty]
  | fuel + 1, path, parts, components, text, short => by
    have parentText := dir_toList_rootedText components text
    by_cases empty : parts = []
    · subst empty
      have fixed : dir path = path := by
        rw [← String.toList_inj, parentText, text]
        rfl
      simp [Roots.ancestorsWithin, fixed]
    · have moved : dir path ≠ path := by
        intro same
        have lengths := length_rootedText_dropLast_lt components empty
        rw [← parentText, ← text, same] at lengths
        exact lt_irrefl _ lengths
      have initComponents : ∀ piece ∈ parts.dropLast, Component piece :=
        fun q member => components q (List.mem_of_mem_dropLast member)
      have initShort : parts.dropLast.length ≤ fuel := by
        rw [List.length_dropLast]
        omega
      have positive : 0 < parts.length := List.length_pos_iff.mpr empty
      rw [Roots.ancestorsWithin, if_neg moved, List.mem_cons,
        mem_ancestorsWithin_rootedText fuel initComponents parentText initShort]
      constructor
      · rintro (rfl | ⟨k, below, same⟩)
        · refine ⟨parts.length - 1, by omega, ?_⟩
          rw [parentText, List.dropLast_eq_take]
        · rw [List.length_dropLast] at below
          refine ⟨k, by omega, ?_⟩
          rw [same, List.dropLast_eq_take, List.take_take, Nat.min_eq_left (by omega)]
      · rintro ⟨k, below, same⟩
        by_cases last : k = parts.length - 1
        · left
          rw [← String.toList_inj, same, parentText, List.dropLast_eq_take, last]
        · right
          refine ⟨k, by rw [List.length_dropLast]; omega, ?_⟩
          rw [same, List.dropLast_eq_take, List.take_take, Nat.min_eq_left (by omega)]

/-- The strict ancestors of a clean absolute path are the texts of the proper prefixes of its
components. -/
theorem mem_ancestors_rootedText {ancestor path : String} {parts : List (List Char)}
    (components : ∀ piece ∈ parts, Component piece) (text : path.toList = rootedText parts) :
    ancestor ∈ Roots.ancestors path ↔
      ∃ k < parts.length, ancestor.toList = rootedText (parts.take k) := by
  have enough : parts.length ≤ path.length + 1 := by
    have bound := length_le_length_joinPieces fun piece member => (components piece member).1
    rw [← String.length_toList, text, rootedText, List.length_cons]
    omega
  exact mem_ancestorsWithin_rootedText _ components text enough

/-! ### The separator form and prefixes -/

theorem rootedText_injective {first second : List (List Char)}
    (components : ∀ piece ∈ first, Component piece) (components' : ∀ piece ∈ second, Component piece)
    (same : rootedText first = rootedText second) : first = second := by
  have joined : joinPieces first = joinPieces second := List.cons.inj same |>.2
  have noSlash : ∀ piece ∈ first, '/' ∉ piece := fun q member => (components q member).2.1
  have noSlash' : ∀ piece ∈ second, '/' ∉ piece := fun q member => (components' q member).2.1
  by_cases empty : first = []
  · subst empty
    by_contra different
    exact joinPieces_ne_nil (fun piece member => (components' piece member).1) (Ne.symm different)
      joined.symm
  · have nonempty' : second ≠ [] := by
      rintro rfl
      exact joinPieces_ne_nil (fun piece member => (components piece member).1) empty joined
    rw [← pieces_joinPieces empty noSlash, joined, pieces_joinPieces nonempty' noSlash']

/-- The separator form of a clean absolute path: the root stays `/`, any other path gains a
trailing slash. -/
theorem withSeparator_toList_rootedText {path : String} {parts : List (List Char)}
    (components : ∀ piece ∈ parts, Component piece) (text : path.toList = rootedText parts) :
    (withSeparator path).toList = if parts = [] then ['/'] else rootedText parts ++ ['/'] := by
  by_cases empty : parts = []
  · subst empty
    have root : path.toList = ['/'] := text
    simp [withSeparator, root]
  · obtain ⟨init, last, rfl⟩ := (List.eq_nil_or_concat parts).resolve_left empty
    rw [List.concat_eq_append] at components text ⊢
    have lastComponent := components last (by simp)
    obtain ⟨front, ending⟩ : ∃ front, path.toList = front ++ last := by
      by_cases initEmpty : init = []
      · subst initEmpty
        exact ⟨['/'], by simpa [rootedText, joinPieces] using text⟩
      · exact ⟨rootedText init ++ ['/'], by rw [text, rootedText_concat initEmpty]; simp⟩
    have lastEnd : path.toList.getLast? ≠ some '/' := by
      obtain ⟨lastChar, lastIs⟩ : ∃ c, last.getLast? = some c :=
        Option.ne_none_iff_exists'.mp (mt List.getLast?_eq_none_iff.mp lastComponent.1)
      rw [ending, List.getLast?_append, lastIs]
      rintro ⟨⟩
      exact lastComponent.2.1 (List.mem_of_getLast? lastIs)
    have nonempty : init ++ [last] ≠ [] := by simp
    rw [withSeparator, if_neg lastEnd, String.toList_append, text, if_neg nonempty]
    rfl

/-- The separator form of a path other than the root is a prefix of another clean absolute path
exactly when its components are a proper prefix of the other's. -/
theorem rootedText_slash_prefix_iff {first second : List (List Char)}
    (components : ∀ piece ∈ first, Component piece) (components' : ∀ piece ∈ second, Component piece)
    (nonempty : first ≠ []) :
    rootedText first ++ ['/'] <+: rootedText second ↔
      ∃ k < second.length, first = second.take k := by
  have noSlash : ∀ piece ∈ first, '/' ∉ piece := fun q member => (components q member).2.1
  have noSlash' : ∀ piece ∈ second, '/' ∉ piece := fun q member => (components' q member).2.1
  constructor
  · rintro ⟨rest, extended⟩
    have joined : joinPieces first ++ '/' :: rest = joinPieces second := by
      simpa [rootedText] using extended
    have nonempty' : second ≠ [] := by
      rintro rfl
      simp [joinPieces] at joined
    have split : second = first ++ pieces rest := by
      rw [← pieces_joinPieces nonempty' noSlash', ← joined, pieces_append_slash,
        pieces_joinPieces nonempty noSlash]
    refine ⟨first.length, ?_, ?_⟩
    · rw [split, List.length_append]
      have restPieces := List.length_pos_iff.mpr (pieces_ne_nil rest)
      omega
    · rw [split, List.take_left]
  · rintro ⟨k, below, rfl⟩
    have rest : second.drop k ≠ [] := by simp [below]
    refine ⟨joinPieces (second.drop k), ?_⟩
    have whole := joinPieces_append nonempty rest
    rw [List.take_append_drop] at whole
    simp [rootedText, whole]

/-! ### Walking up against comparing prefixes -/

/-- **Parent walk and prefix agree.** For clean absolute paths, `ancestor` is one of the parents
`dir` walks to from `path` exactly when it differs from `path` and its separator form starts
`path`. The root is the one path whose separator form is itself, and it is an ancestor of every
other clean absolute path. -/
theorem mem_ancestors_iff {ancestor path : String} (cleanAncestor : IsCleanAbs ancestor)
    (cleanPath : IsCleanAbs path) :
    ancestor ∈ Roots.ancestors path ↔
      ancestor ≠ path ∧ (withSeparator ancestor).toList <+: path.toList := by
  obtain ⟨first, components, text⟩ := isCleanAbs_iff.mp cleanAncestor
  obtain ⟨second, components', text'⟩ := isCleanAbs_iff.mp cleanPath
  have sameText : ∀ k, ancestor.toList = rootedText (second.take k) ↔ first = second.take k := by
    intro k
    rw [text]
    exact ⟨rootedText_injective components
      (fun q member => components' q (List.mem_of_mem_take member)), congrArg rootedText⟩
  have different : ancestor ≠ path ↔ first ≠ second := by
    rw [Ne, ← String.toList_inj, text, text']
    exact not_congr ⟨rootedText_injective components components', congrArg rootedText⟩
  rw [mem_ancestors_rootedText components' text', withSeparator_toList_rootedText components text,
    text', different]
  simp only [sameText]
  by_cases empty : first = []
  · subst empty
    simp only [if_true]
    constructor
    · rintro ⟨k, below, -⟩
      exact ⟨fun same => by simp [← same] at below, ⟨joinPieces second, rfl⟩⟩
    · rintro ⟨different, -⟩
      exact ⟨0, List.length_pos_iff.mpr (Ne.symm different), by simp⟩
  · rw [if_neg empty, rootedText_slash_prefix_iff components components' empty]
    constructor
    · rintro ⟨k, below, same⟩
      refine ⟨fun equal => ?_, k, below, same⟩
      have lengths := congrArg List.length same
      rw [← equal, List.length_take] at lengths
      rw [← equal] at below
      omega
    · exact fun ⟨_, found⟩ => found

theorem isAncestor_iff {ancestor path : String} :
    isAncestor ancestor path = true ↔
      ancestor ≠ path ∧ (withSeparator ancestor).toList <+: path.toList := by
  simp [isAncestor, List.isPrefixOf_iff_prefix]

/-- For clean absolute paths, `isAncestor` is the parent walk. -/
theorem isAncestor_iff_mem_ancestors {ancestor path : String} (cleanAncestor : IsCleanAbs ancestor)
    (cleanPath : IsCleanAbs path) :
    isAncestor ancestor path = true ↔ ancestor ∈ Roots.ancestors path := by
  rw [isAncestor_iff, mem_ancestors_iff cleanAncestor cleanPath]

/-! ### `isAncestor` is a strict order -/

theorem prefix_withSeparator (path : String) : path.toList <+: (withSeparator path).toList := by
  unfold withSeparator
  split
  · exact List.prefix_refl _
  · exact ⟨['/'], by simp [String.toList_append]⟩

@[simp]
theorem isAncestor_irrefl (path : String) : isAncestor path path = false := by
  simp [isAncestor]

theorem length_lt_of_isAncestor {ancestor path : String} (below : isAncestor ancestor path = true) :
    ancestor.length < path.length := by
  obtain ⟨different, isPrefix⟩ := isAncestor_iff.mp below
  have intoPath := (prefix_withSeparator ancestor).trans isPrefix
  rcases Nat.lt_or_eq_of_le intoPath.length_le with shorter | same
  · simpa [String.length_toList] using shorter
  · exact absurd (String.toList_inj.mp (intoPath.eq_of_length same)) different

theorem isAncestor_trans {first second third : String} (below : isAncestor first second = true)
    (below' : isAncestor second third = true) : isAncestor first third = true := by
  obtain ⟨-, isPrefix⟩ := isAncestor_iff.mp below
  obtain ⟨-, isPrefix'⟩ := isAncestor_iff.mp below'
  have shorter := Nat.lt_trans (length_lt_of_isAncestor below) (length_lt_of_isAncestor below')
  refine isAncestor_iff.mpr ⟨fun same => ?_, isPrefix.trans ((prefix_withSeparator second).trans
    isPrefix')⟩
  rw [same] at shorter
  exact lt_irrefl _ shorter

end StableWatch.Path
