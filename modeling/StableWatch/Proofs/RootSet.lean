import StableWatch.Proofs.Reduce
import StableWatch.Watch.RootSet
/-!
# Generations of roots

A generation the registry builds keeps its roots increasing by prefix, and every root is a clean
absolute path (`RootSet.WellFormed`). Every operation of a generation keeps that
(`WellFormed.add`, `addAll`, `removeAll`, `keep`, `declare`). For clean absolute roots the prefix
of a root determines it (`prefixText_injective`), so adding a root with a prefix already present
changes nothing, and each operation is a plain set operation on roots (`mem_addAll`,
`mem_removeAll`, `mem_keep`, `mem_declare`).

`find?` looks through the roots in increasing order of prefix. Two roots containing one path have
prefixes of which one starts the other, and the shorter comes first, so the prefix of the root found
starts that of every other root containing the path (`prefix_of_find?`). Among clean roots it
therefore covers every root of the generation containing the path (`covers_of_find?`): it is the
outermost one.
-/

namespace StableWatch

open StableWatch.Path

namespace Root

theorem contains_iff {root : Root} {candidate : String} :
    root.contains candidate = true ↔ (withSeparator root.path).toList <+: candidate.toList := by
  simp [contains, prefixText, List.isPrefixOf_iff_prefix]

/-- A root covers every path it contains. -/
theorem covers_of_contains {root : Root} {candidate : String}
    (contains : root.contains candidate = true) : Covers root.path candidate := by
  by_cases same : root.path = candidate
  · exact Or.inl same
  · exact Or.inr (isAncestor_iff.mpr ⟨same, contains_iff.mp contains⟩)

/-- A root whose prefix starts the prefix of another covers it. -/
theorem covers_of_prefixText_prefix {top root : Root} (cleanTop : IsCleanAbs top.path)
    (cleanRoot : IsCleanAbs root.path)
    (isPrefix : top.prefixText.toList <+: root.prefixText.toList) : Covers top.path root.path :=
  covers_of_prefix_withSeparator cleanTop cleanRoot isPrefix

theorem prefixText_injective {first second : Root} (clean : IsCleanAbs first.path)
    (clean' : IsCleanAbs second.path) (same : first.prefixText = second.prefixText) :
    first = second := by
  have covers := covers_of_prefixText_prefix clean clean' (same ▸ List.prefix_refl _)
  have covers' := covers_of_prefixText_prefix clean' clean (same ▸ List.prefix_refl _)
  cases first
  cases second
  simp only [Root.mk.injEq]
  exact covers.antisymm covers'

end Root

namespace RootSet

/-- The roots of a generation increase strictly by prefix. -/
def Increasing (set : RootSet) : Prop :=
  set.roots.Pairwise fun first second => first.prefixText < second.prefixText

/-- What every generation the registry builds satisfies. -/
structure WellFormed (set : RootSet) : Prop where
  increasing : set.roots.Pairwise (fun first second => first.prefixText < second.prefixText)
  clean : ∀ root ∈ set.roots, IsCleanAbs root.path

/-- Two well-formed generations with the same roots are the same generation. -/
theorem WellFormed.ext {set other : RootSet} (wellFormed : set.WellFormed)
    (wellFormed' : other.WellFormed) (same : ∀ root, root ∈ set.roots ↔ root ∈ other.roots) :
    set = other := by
  have : Std.Irrefl fun first second : Root => first.prefixText < second.prefixText :=
    ⟨fun _ => lt_irrefl _⟩
  have : Std.Antisymm fun first second : Root => first.prefixText < second.prefixText :=
    ⟨fun _ _ before after => absurd (before.trans after) (lt_irrefl _)⟩
  obtain ⟨roots⟩ := set
  obtain ⟨roots'⟩ := other
  rw [RootSet.mk.injEq]
  exact wellFormed.increasing.eq_of_mem_iff wellFormed'.increasing same

/-! ### Adding roots -/

theorem map_prefixText_insertRoot (root : Root) (roots : List Root) :
    (insertRoot root roots).map Root.prefixText =
      PathSet.insert root.prefixText (roots.map Root.prefixText) := by
  induction roots with
  | nil => rfl
  | cons head rest ih =>
    simp only [insertRoot, List.map_cons, PathSet.insert]
    split_ifs with before same
    · rfl
    · simp [same]
    · simp [ih]

theorem mem_insertRoot_of_mem {root other : Root} {roots : List Root}
    (member : other ∈ insertRoot root roots) : other = root ∨ other ∈ roots := by
  induction roots with
  | nil => simpa [insertRoot] using member
  | cons head rest ih =>
    simp only [insertRoot] at member
    split_ifs at member <;> simp only [List.mem_cons] at member ⊢
    · tauto
    · tauto
    · rcases member with rfl | later
      · exact Or.inr (Or.inl rfl)
      · rcases ih later with same | inRest
        · exact Or.inl same
        · exact Or.inr (Or.inr inRest)

/-- Among clean roots, inserting adds exactly the root. -/
theorem mem_insertRoot {root other : Root} {roots : List Root} (cleanRoot : IsCleanAbs root.path)
    (clean : ∀ member ∈ roots, IsCleanAbs member.path) :
    other ∈ insertRoot root roots ↔ other = root ∨ other ∈ roots := by
  refine ⟨mem_insertRoot_of_mem, ?_⟩
  induction roots with
  | nil => simp [insertRoot]
  | cons head rest ih =>
    have restClean : ∀ member ∈ rest, IsCleanAbs member.path :=
      fun member inRest => clean member (List.mem_cons_of_mem head inRest)
    simp only [insertRoot]
    split_ifs with before same
    · simp only [List.mem_cons]
      tauto
    · have headIsRoot : head = root :=
        (Root.prefixText_injective cleanRoot (clean head List.mem_cons_self) same).symm
      simp only [List.mem_cons, headIsRoot]
      tauto
    · rintro (rfl | member)
      · exact List.mem_cons_of_mem head (ih restClean (Or.inl rfl))
      · rcases List.mem_cons.mp member with rfl | later
        · exact List.mem_cons_self
        · exact List.mem_cons_of_mem _ (ih restClean (Or.inr later))

theorem Increasing.add {set : RootSet} (increasing : set.Increasing) (root : Root) :
    (set.add root).Increasing := by
  have mapped := PathSet.pairwise_insert root.prefixText (List.pairwise_map.mpr increasing)
  rw [← map_prefixText_insertRoot] at mapped
  exact List.pairwise_map.mp mapped

theorem WellFormed.add {set : RootSet} (wellFormed : set.WellFormed) {root : Root}
    (cleanRoot : IsCleanAbs root.path) : (set.add root).WellFormed where
  increasing := Increasing.add wellFormed.increasing root
  clean member inserted := by
    rcases mem_insertRoot_of_mem inserted with rfl | old
    · exact cleanRoot
    · exact wellFormed.clean member old

theorem mem_add {set : RootSet} (wellFormed : set.WellFormed) {root other : Root}
    (cleanRoot : IsCleanAbs root.path) : other ∈ (set.add root).roots ↔ other = root ∨ other ∈ set.roots :=
  mem_insertRoot cleanRoot wellFormed.clean

theorem wellFormed_empty : RootSet.empty.WellFormed where
  increasing := List.Pairwise.nil
  clean := by simp [RootSet.empty]

/-- Adding the roots of a generation keeps a generation well formed and adds exactly them. -/
theorem WellFormed.addAll {set other : RootSet} (wellFormed : set.WellFormed)
    (wellFormed' : other.WellFormed) :
    (set.addAll other).WellFormed ∧
      ∀ root, root ∈ (set.addAll other).roots ↔ root ∈ set.roots ∨ root ∈ other.roots := by
  obtain ⟨roots⟩ := other
  have clean' : ∀ root ∈ roots, IsCleanAbs root.path := wellFormed'.clean
  unfold RootSet.addAll
  clear wellFormed'
  induction roots generalizing set with
  | nil => exact ⟨wellFormed, by simp⟩
  | cons head rest ih =>
    have headClean := clean' head List.mem_cons_self
    obtain ⟨restWellFormed, restMembers⟩ := ih (wellFormed.add headClean)
      (fun root member => clean' root (List.mem_cons_of_mem head member))
    refine ⟨restWellFormed, fun root => ?_⟩
    rw [List.foldl_cons, restMembers, mem_add wellFormed headClean, List.mem_cons]
    tauto

/-- The roots of the generation built from clean absolute paths are those paths. -/
theorem WellFormed.ofPaths {paths : List String} (clean : ∀ path ∈ paths, IsCleanAbs path) :
    (ofPaths paths).WellFormed ∧ ∀ root, root ∈ (ofPaths paths).roots ↔ root.path ∈ paths := by
  suffices folded : ∀ set : RootSet, set.WellFormed →
      (paths.foldl (fun set path => set.add ⟨path⟩) set).WellFormed ∧
        ∀ root, root ∈ (paths.foldl (fun set path => set.add ⟨path⟩) set).roots ↔
          root ∈ set.roots ∨ root.path ∈ paths by
    obtain ⟨wellFormed, members⟩ := folded RootSet.empty wellFormed_empty
    unfold RootSet.ofPaths
    exact ⟨wellFormed, fun root => by simpa [RootSet.empty] using members root⟩
  induction paths with
  | nil => exact fun set wellFormed => ⟨wellFormed, by simp⟩
  | cons head rest ih =>
    intro set wellFormed
    have headClean := clean head List.mem_cons_self
    obtain ⟨restWellFormed, restMembers⟩ :=
      ih (fun path member => clean path (List.mem_cons_of_mem head member)) _
        (wellFormed.add headClean : (set.add ⟨head⟩).WellFormed)
    refine ⟨restWellFormed, fun root => ?_⟩
    rw [List.foldl_cons, restMembers, mem_add wellFormed headClean, List.mem_cons]
    constructor
    · rintro ((rfl | old) | later)
      · exact Or.inr (Or.inl rfl)
      · exact Or.inl old
      · exact Or.inr (Or.inr later)
    · rintro (old | same | later)
      · exact Or.inl (Or.inr old)
      · exact Or.inl (Or.inl (by cases root; simp_all))
      · exact Or.inr later

/-- A declared generation is well formed, and its roots are the outermost of the declared
paths. -/
theorem WellFormed.declare {paths : List String} (clean : ∀ path ∈ paths, IsCleanAbs path) :
    (declare paths).WellFormed ∧
      ∀ root, root ∈ (declare paths).roots ↔ root.path ∈ Roots.reduce paths :=
  WellFormed.ofPaths fun path kept => clean path (Roots.mem_of_mem_reduce clean kept)

/-! ### Removing roots -/

theorem WellFormed.keep {set : RootSet} (wellFormed : set.WellFormed) (test : Root → Bool) :
    (set.keep test).WellFormed where
  increasing := wellFormed.increasing.filter _
  clean root member := wellFormed.clean root (List.mem_filter.mp member).1

@[simp]
theorem mem_keep {set : RootSet} {test : Root → Bool} {root : Root} :
    root ∈ (set.keep test).roots ↔ root ∈ set.roots ∧ test root = true := by
  simp [RootSet.keep]

theorem WellFormed.removeAll {set : RootSet} (wellFormed : set.WellFormed) (other : RootSet) :
    (set.removeAll other).WellFormed where
  increasing := wellFormed.increasing.filter _
  clean root member := wellFormed.clean root (List.mem_filter.mp member).1

/-- Among clean roots, removing the roots of another generation removes exactly them. -/
theorem mem_removeAll {set other : RootSet} (wellFormed : set.WellFormed)
    (wellFormed' : other.WellFormed) {root : Root} :
    root ∈ (set.removeAll other).roots ↔ root ∈ set.roots ∧ root ∉ other.roots := by
  simp only [RootSet.removeAll, List.mem_filter, Bool.not_eq_true', List.any_eq_false,
    decide_eq_true_eq]
  constructor
  · rintro ⟨member, notShared⟩
    exact ⟨member, fun inOther => notShared root inOther rfl⟩
  · rintro ⟨member, notInOther⟩
    refine ⟨member, fun shared inOther same => ?_⟩
    have equal := Root.prefixText_injective (wellFormed'.clean shared inOther)
      (wellFormed.clean root member) same
    exact notInOther (equal ▸ inOther)

/-- Removing the roots of a generation twice removes them once. -/
@[simp]
theorem removeAll_removeAll (set other : RootSet) :
    (set.removeAll other).removeAll other = set.removeAll other := by
  simp [RootSet.removeAll, List.filter_filter]

/-! ### Finding the root containing a path -/

theorem find?_eq_none_iff {set : RootSet} {candidate : String} :
    set.find? candidate = none ↔ ∀ root ∈ set.roots, root.contains candidate = false := by
  simp [RootSet.find?]

/-- A path inside a root of a set finds a root. -/
theorem find?_ne_none {set : RootSet} {candidate : String} {root : Root} (member : root ∈ set.roots)
    (contains : root.contains candidate = true) : set.find? candidate ≠ none := by
  intro missing
  have absent := find?_eq_none_iff.mp missing root member
  rw [contains] at absent
  exact Bool.noConfusion absent

theorem find?_spec {set : RootSet} {candidate : String} {root : Root}
    (found : set.find? candidate = some root) :
    root ∈ set.roots ∧ root.contains candidate = true := by
  have found' : set.roots.find? (·.contains candidate) = some root := found
  have holds := List.find?_some found'
  exact ⟨List.mem_of_find?_eq_some found', holds⟩

/-- **The root found has the shortest prefix.** In an increasing generation, the prefix of the
root `find?` returns is a proper prefix of the prefix of every other root containing the
candidate. -/
theorem prefix_of_find? {set : RootSet} (increasing : set.Increasing) {candidate : String}
    {root : Root} (found : set.find? candidate = some root) {other : Root}
    (member : other ∈ set.roots) (contains : other.contains candidate = true)
    (different : other ≠ root) :
    root.prefixText.toList <+: other.prefixText.toList ∧ root.prefixText ≠ other.prefixText := by
  have found' : set.roots.find? (·.contains candidate) = some root := found
  obtain ⟨rootContains, before, after, split, skipped⟩ := List.find?_eq_some_iff_append.mp found'
  have ordered := increasing
  rw [Increasing, split, List.pairwise_append, List.pairwise_cons] at ordered
  rw [split] at member
  rcases List.mem_append.mp member with earlier | later
  · -- the roots before the one found do not contain the candidate
    have skippedOther := skipped other earlier
    rw [contains] at skippedOther
    exact absurd skippedOther (by decide)
  rcases List.mem_cons.mp later with same | after'
  · exact absurd same different
  have rootFirst : root.prefixText < other.prefixText := ordered.2.1.1 other after'
  -- both prefixes start the candidate, so one starts the other; the one that comes first in the
  -- order is the one that starts the other
  rcases List.prefix_or_prefix_of_prefix (Root.contains_iff.mp rootContains)
      (Root.contains_iff.mp contains) with rootStarts | otherStarts
  · exact ⟨rootStarts, ne_of_lt rootFirst⟩
  · by_cases same : other.prefixText.toList = root.prefixText.toList
    · rw [String.toList_inj] at same
      exact absurd rootFirst (same ▸ String.lt_irrefl _)
    · exact absurd rootFirst (String.lt_asymm (PathSet.lt_of_prefix otherStarts same))

/-- **The root found is the outermost.** In a well-formed generation, the first root in order of
prefixes that contains a path covers every root of the generation containing it. -/
theorem covers_of_find? {set : RootSet} (wellFormed : set.WellFormed) {candidate : String}
    {root : Root} (found : set.find? candidate = some root) {other : Root}
    (member : other ∈ set.roots) (contains : other.contains candidate = true) :
    Covers root.path other.path := by
  by_cases same : other = root
  · rw [same]
  have rootClean := wellFormed.clean root (find?_spec found).1
  obtain ⟨isPrefix, -⟩ := prefix_of_find? wellFormed.increasing found member contains same
  exact Root.covers_of_prefixText_prefix rootClean (wellFormed.clean other member) isPrefix

end RootSet

end StableWatch
