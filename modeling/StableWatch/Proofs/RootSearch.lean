import StableWatch.Proofs.Outermost
import StableWatch.Proofs.RootSet
/-!
# Finding the root that contains a path, in any generation

A generation of roots is built by declaring paths, adding a root, adding or removing the roots of
another generation, keeping the roots that pass a test, and clearing (`RootSet.Built`). Its roots
need not be clean or absolute. Every such generation lists its roots in strictly increasing order
of prefix (`Built.increasing`), and that alone makes `find?` return the outermost root containing
a path. The prefixes of the roots containing a path all start the path, so of any two one starts
the other, and a prefix comes before its extensions. The root found therefore has the shortest
prefix (`prefix_of_find?`). A separator form is its path with at most one slash added, so the
root found also has the shortest path (`path_length_lt_of_prefix`).

A generation declared from absolute paths holds only clean paths, none inside another, so no two
of its roots contain one path (`eq_of_contains_of_declare`).
-/

namespace StableWatch

open StableWatch.Path

namespace Root

/-- A separator form adds at most one character to its path. -/
theorem length_withSeparator_le (path : String) :
    (withSeparator path).toList.length ≤ path.toList.length + 1 := by
  unfold withSeparator
  split <;> simp [String.toList_append]

/-- A prefix that starts another and differs from it is shorter. -/
theorem length_lt_of_prefix {first second : Root}
    (isPrefix : first.prefixText.toList <+: second.prefixText.toList)
    (different : first.prefixText ≠ second.prefixText) :
    first.prefixText.length < second.prefixText.length := by
  rw [← String.length_toList, ← String.length_toList]
  exact lt_of_le_of_ne isPrefix.length_le fun same =>
    different (String.toList_inj.mp (isPrefix.eq_of_length same))

/-- **A shorter prefix has a shorter path.** When the prefix of one root is a proper prefix of
the prefix of another, the path of the first is shorter. -/
theorem path_length_lt_of_prefix {first second : Root}
    (isPrefix : first.prefixText.toList <+: second.prefixText.toList)
    (different : first.prefixText ≠ second.prefixText) :
    first.path.length < second.path.length := by
  have firstWithin := prefix_withSeparator first.path
  have secondWithin := prefix_withSeparator second.path
  have grown := length_withSeparator_le second.path
  have firstGrown := firstWithin.length_le
  have shorter := length_lt_of_prefix isPrefix different
  rw [← String.length_toList, ← String.length_toList] at shorter
  simp only [prefixText] at isPrefix shorter
  rw [← String.length_toList, ← String.length_toList]
  by_contra notShorter
  -- equal lengths leave no room: the first path is its own prefix, and that is the second path
  have firstWhole : first.path.toList = (withSeparator first.path).toList :=
    firstWithin.eq_of_length (by omega)
  have secondIsFirst : (withSeparator first.path).toList = second.path.toList :=
    (List.prefix_of_prefix_length_le isPrefix secondWithin (by omega)).eq_of_length (by omega)
  have samePath : first.path = second.path := String.toList_inj.mp (firstWhole.trans secondIsFirst)
  exact different (by simp [prefixText, samePath])

end Root

namespace RootSet

/-- Adding roots one after another keeps a generation increasing. -/
theorem Increasing.foldl_add {α : Type} {set : RootSet} (increasing : set.Increasing)
    (root : α → Root) (items : List α) :
    (items.foldl (fun set item => set.add (root item)) set).Increasing := by
  induction items generalizing set with
  | nil => exact increasing
  | cons item rest ih => exact ih (increasing.add (root item))

theorem increasing_empty : RootSet.empty.Increasing :=
  List.Pairwise.nil

theorem Increasing.removeAll {set : RootSet} (increasing : set.Increasing) (other : RootSet) :
    (set.removeAll other).Increasing :=
  List.Pairwise.filter _ increasing

theorem Increasing.keep {set : RootSet} (increasing : set.Increasing) (test : Root → Bool) :
    (set.keep test).Increasing :=
  List.Pairwise.filter _ increasing

/-- The generations some sequence of calls builds: declaring any paths, adding any root, adding
or removing the roots of another such generation, keeping the roots that pass a test, and
clearing. -/
inductive Built : RootSet → Prop
  | empty : Built RootSet.empty
  | declare (paths : List String) : Built (declare paths)
  | add {set : RootSet} (root : Root) : Built set → Built (set.add root)
  | addAll {set other : RootSet} : Built set → Built other → Built (set.addAll other)
  | removeAll {set other : RootSet} : Built set → Built other → Built (set.removeAll other)
  | keep {set : RootSet} (test : Root → Bool) : Built set → Built (set.keep test)

/-- **Every generation built by the calls increases by prefix.** -/
theorem Built.increasing {set : RootSet} (built : set.Built) : set.Increasing := by
  induction built with
  | empty => exact increasing_empty
  | declare paths => exact increasing_empty.foldl_add Root.mk _
  | add root _ ih => exact ih.add root
  | addAll _ _ ih _ => exact ih.foldl_add id _
  | removeAll _ _ ih _ => exact ih.removeAll _
  | keep test _ ih => exact ih.keep test

theorem find?_isSome_iff {set : RootSet} {candidate : String} :
    (set.find? candidate).isSome ↔ ∃ root ∈ set.roots, root.contains candidate = true := by
  simp [RootSet.find?]

/-! ### Declared generations -/

/-- The roots declared from absolute paths are clean absolute paths, none strictly inside
another. -/
theorem declare_outermost {paths : List String} (absolute : ∀ path ∈ paths, isAbs path = true) :
    (∀ root ∈ (declare paths).roots, IsCleanAbs root.path) ∧
      ∀ top ∈ (declare paths).roots, ∀ root ∈ (declare paths).roots,
        isAncestor top.path root.path = false := by
  have clean : ∀ path ∈ Roots.reduce paths, IsCleanAbs path := by
    intro path kept
    obtain ⟨given, member, rfl⟩ := List.mem_map.mp (Roots.mem_reduce_iff.mp kept).1
    exact isCleanAbs_clean (absolute given member)
  have members := (WellFormed.ofPaths clean).2
  refine ⟨fun root member => clean root.path ((members root).mp member), ?_⟩
  intro top topMember root member
  have keptTop := (members top).mp topMember
  have kept := (members root).mp member
  rw [Bool.eq_false_iff]
  intro below
  exact Roots.not_strictAncestor_of_mem_reduce keptTop kept
    ((isAncestor_iff_strictAncestor (clean _ keptTop) (clean _ kept)).mp below)

/-- A declared root whose prefix starts that of another declared root covers it, and declared
roots cover only themselves. -/
theorem eq_of_prefixText_prefix_of_declare {paths : List String}
    (absolute : ∀ path ∈ paths, isAbs path = true) {top root : Root}
    (topDeclared : top ∈ (declare paths).roots) (declared : root ∈ (declare paths).roots)
    (isPrefix : top.prefixText.toList <+: root.prefixText.toList) : top = root := by
  obtain ⟨clean, outermost⟩ := declare_outermost absolute
  rcases Root.covers_of_prefixText_prefix (clean top topDeclared) (clean root declared)
      isPrefix with same | below
  · cases top
    cases root
    exact congrArg Root.mk same
  · rw [outermost top topDeclared root declared] at below
    exact absurd below (by decide)

/-- **No two declared roots contain one path.** Both prefixes start the path, so one starts the
other. -/
theorem eq_of_contains_of_declare {paths : List String}
    (absolute : ∀ path ∈ paths, isAbs path = true) {first second : Root} {candidate : String}
    (firstDeclared : first ∈ (declare paths).roots) (secondDeclared : second ∈ (declare paths).roots)
    (firstContains : first.contains candidate = true)
    (secondContains : second.contains candidate = true) : first = second := by
  rcases List.prefix_or_prefix_of_prefix (Root.contains_iff.mp firstContains)
      (Root.contains_iff.mp secondContains) with firstStarts | secondStarts
  · exact eq_of_prefixText_prefix_of_declare absolute firstDeclared secondDeclared firstStarts
  · exact (eq_of_prefixText_prefix_of_declare absolute secondDeclared firstDeclared
      secondStarts).symm

end RootSet

/-- **`find?` returns the outermost root containing a path.** In any generation the calls build,
`find?` finds a root exactly when some root contains the candidate. The root found contains it,
and every other root containing it has a strictly longer prefix and a strictly longer path. In a
generation whose roots were all declared together from absolute paths, at most one root contains
the candidate. -/
theorem find?_returns_outermost_root {set : RootSet} (built : set.Built) (candidate : String) :
    ((set.find? candidate).isSome ↔ ∃ root ∈ set.roots, root.contains candidate = true) ∧
      (∀ root, set.find? candidate = some root →
        root ∈ set.roots ∧ root.contains candidate = true ∧
          ∀ other ∈ set.roots, other.contains candidate = true → other ≠ root →
            root.prefixText.length < other.prefixText.length ∧
              root.path.length < other.path.length) ∧
      (∀ paths : List String, (∀ path ∈ paths, isAbs path = true) →
        (∀ root ∈ set.roots, root ∈ (RootSet.declare paths).roots) →
        ∀ first ∈ set.roots, ∀ second ∈ set.roots,
          first.contains candidate = true → second.contains candidate = true → first = second) := by
  refine ⟨RootSet.find?_isSome_iff, fun root found => ?_, ?_⟩
  · obtain ⟨member, contains⟩ := RootSet.find?_spec found
    refine ⟨member, contains, fun other otherMember otherContains different => ?_⟩
    obtain ⟨isPrefix, apart⟩ :=
      RootSet.prefix_of_find? built.increasing found otherMember otherContains different
    exact ⟨Root.length_lt_of_prefix isPrefix apart, Root.path_length_lt_of_prefix isPrefix apart⟩
  · intro paths absolute within first firstMember second secondMember
    exact RootSet.eq_of_contains_of_declare absolute (within first firstMember)
      (within second secondMember)

/-- Two nested roots added one by one: `/a/b/c` finds the outer root `/a`. -/
theorem nested_roots_find_outer :
    RootSet.Built ((RootSet.empty.add ⟨"/a/b"⟩).add ⟨"/a"⟩) ∧
      (((RootSet.empty.add ⟨"/a/b"⟩).add ⟨"/a"⟩).find? "/a/b/c").isSome = true ∧
      ((RootSet.empty.add ⟨"/a/b"⟩).add ⟨"/a"⟩).find? "/a/b/c" = some ⟨"/a"⟩ := by
  have built : RootSet.Built ((RootSet.empty.add ⟨"/a/b"⟩).add ⟨"/a"⟩) :=
    .add _ (.add _ .empty)
  have found := (find?_returns_outermost_root built "/a/b/c").1
  exact ⟨built, found.mpr ⟨⟨"/a"⟩, by decide, by decide⟩, by decide⟩

end StableWatch
