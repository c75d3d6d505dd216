import StableWatch.Proofs.CleanPath
import StableWatch.Proofs.PathSet
/-!
# Reducing clean absolute paths to their outermost members

On clean absolute paths, `Roots.reduce` keeps exactly the members with no strict ancestor among
the others (`mem_reduce`); its result is increasing and holds no path below another
(`reduce_antichain`). Every member is covered by a kept one (`exists_mem_reduce_covers`), where a
path covers another when it is the same path or one of its ancestors (`Covers`).

The main tool of the registry proofs is `reduce_eq_of_covers`: two lists of clean absolute paths in
which every member of each is covered by a member of the other reduce to the same hierarchies.
Substituting a directory by a root that contains it, or dropping a root that another root
covers, never changes the reduction as long as this mutual covering holds.
-/

namespace StableWatch

namespace Path

/-- `top` is `path` or a strict ancestor of it: watching `top` watches `path`. -/
def Covers (top path : String) : Prop :=
  top = path ∨ isAncestor top path = true

@[refl]
theorem Covers.refl (path : String) : Covers path path :=
  Or.inl rfl

theorem Covers.of_isAncestor {top path : String} (below : isAncestor top path = true) :
    Covers top path :=
  Or.inr below

theorem Covers.trans {first second third : String} (covers : Covers first second)
    (covers' : Covers second third) : Covers first third := by
  rcases covers with rfl | below
  · exact covers'
  · rcases covers' with rfl | below'
    · exact Or.inr below
    · exact Or.inr (isAncestor_trans below below')

/-- A cover followed by a strict ancestor is a strict ancestor. -/
theorem Covers.isAncestor_trans {first second third : String} (covers : Covers first second)
    (below : isAncestor second third = true) : isAncestor first third = true := by
  rcases covers with rfl | above
  · exact below
  · exact Path.isAncestor_trans above below

theorem Covers.antisymm {first second : String} (covers : Covers first second)
    (covers' : Covers second first) : first = second := by
  rcases covers with same | below
  · exact same
  · have loop := Covers.isAncestor_trans covers' below
    simp at loop

/-- Between clean absolute paths, a separator form that starts another separator form belongs to
a path covering the other. -/
theorem covers_of_prefix_withSeparator {top path : String} (cleanTop : IsCleanAbs top)
    (cleanPath : IsCleanAbs path)
    (isPrefix : (withSeparator top).toList <+: (withSeparator path).toList) : Covers top path := by
  obtain ⟨first, components, text⟩ := isCleanAbs_iff.mp cleanTop
  obtain ⟨second, components', text'⟩ := isCleanAbs_iff.mp cleanPath
  rw [withSeparator_toList_rootedText components text,
    withSeparator_toList_rootedText components' text'] at isPrefix
  by_cases same : top = path
  · exact Or.inl same
  refine Or.inr (isAncestor_iff.mpr ⟨same, ?_⟩)
  rw [withSeparator_toList_rootedText components text, text']
  by_cases empty : first = []
  · simp only [empty, if_true]
    exact ⟨joinPieces second, rfl⟩
  by_cases empty' : second = []
  · simp only [empty, empty', if_false, if_true] at isPrefix
    have lengths := isPrefix.length_le
    simp [rootedText] at lengths
  simp only [empty, empty', if_false] at isPrefix ⊢
  rcases List.prefix_concat_iff.mp isPrefix with equal | shorter
  · have parts : first = second :=
      rootedText_injective components components' (List.append_cancel_right equal)
    refine absurd ?_ same
    rw [← String.toList_inj, text, text', parts]
  · exact shorter

theorem Covers.prefix_withSeparator {top path : String} (covers : Covers top path) :
    (withSeparator top).toList <+: (withSeparator path).toList := by
  rcases covers with rfl | below
  · exact List.prefix_refl _
  · exact (isAncestor_iff.mp below).2.trans (Path.prefix_withSeparator path)

/-- **The hierarchies covering a path form a chain**: of two clean absolute paths covering the
same path, one covers the other. -/
theorem Covers.total {first second path : String} (cleanFirst : IsCleanAbs first)
    (cleanSecond : IsCleanAbs second) (covers : Covers first path) (covers' : Covers second path) :
    Covers first second ∨ Covers second first := by
  rcases List.prefix_or_prefix_of_prefix covers.prefix_withSeparator
      covers'.prefix_withSeparator with firstShorter | secondShorter
  · exact Or.inl (covers_of_prefix_withSeparator cleanFirst cleanSecond firstShorter)
  · exact Or.inr (covers_of_prefix_withSeparator cleanSecond cleanFirst secondShorter)

theorem Covers.length_le {top path : String} (covers : Covers top path) :
    top.length ≤ path.length := by
  rcases covers with rfl | below
  · exact le_rfl
  · exact (length_lt_of_isAncestor below).le

theorem Covers.eq_of_isAncestor_eq_false {top path : String} (covers : Covers top path)
    (notBelow : isAncestor top path = false) : top = path := by
  rcases covers with same | below
  · exact same
  · rw [notBelow] at below
    exact Bool.noConfusion below

/-- Two clean absolute paths covering the same path, neither below the other, are one. -/
theorem Covers.eq_of_apart {first second path : String} (cleanFirst : IsCleanAbs first)
    (cleanSecond : IsCleanAbs second) (covers : Covers first path) (covers' : Covers second path)
    (notBelow : isAncestor first second = false) (notAbove : isAncestor second first = false) :
    first = second := by
  rcases covers.total cleanFirst cleanSecond covers' with above | under
  · exact above.eq_of_isAncestor_eq_false notBelow
  · exact (under.eq_of_isAncestor_eq_false notAbove).symm

theorem Covers.eq_of_length_le {top path : String} (covers : Covers top path)
    (longer : path.length ≤ top.length) : top = path := by
  rcases covers with same | below
  · exact same
  · have shorter := length_lt_of_isAncestor below
    omega

end Path

namespace Roots

open StableWatch.Path

/-- Cleaning leaves a list of clean paths as it is. -/
theorem map_clean_eq_self {paths : List String} (clean : ∀ path ∈ paths, IsCleanAbs path) :
    paths.map Path.clean = paths := by
  conv => rhs; rw [← List.map_id paths]
  exact List.map_congr_left fun path member => (clean path member).clean_eq

/-- A clean absolute path has an ancestor among clean absolute paths exactly when one of them is
a strict ancestor of it. -/
theorem hasAncestorIn_iff {set : List String} {path : String}
    (cleanSet : ∀ member ∈ set, IsCleanAbs member) (cleanPath : IsCleanAbs path) :
    hasAncestorIn set path = true ↔ ∃ ancestor ∈ set, isAncestor ancestor path = true := by
  simp only [hasAncestorIn, List.any_eq_true, List.contains_iff_mem]
  constructor
  · rintro ⟨ancestor, walked, member⟩
    exact ⟨ancestor, member,
      (isAncestor_iff_mem_ancestors (cleanSet ancestor member) cleanPath).mpr walked⟩
  · rintro ⟨ancestor, member, below⟩
    exact ⟨ancestor,
      (isAncestor_iff_mem_ancestors (cleanSet ancestor member) cleanPath).mp below, member⟩

theorem pairwise_reduce (paths : List String) : (reduce paths).Pairwise (· < ·) :=
  (PathSet.pairwise_ofList _).filter _

/-- **What reduction keeps.** Of clean absolute paths, reduction keeps those that have no strict
ancestor among them. -/
theorem mem_reduce {paths : List String} (clean : ∀ path ∈ paths, IsCleanAbs path)
    {path : String} :
    path ∈ reduce paths ↔ path ∈ paths ∧ ∀ other ∈ paths, isAncestor other path = false := by
  have members : ∀ member, member ∈ PathSet.ofList (paths.map Path.clean) ↔ member ∈ paths := by
    intro member
    rw [PathSet.mem_ofList, map_clean_eq_self clean]
  have cleanSet : ∀ member ∈ PathSet.ofList (paths.map Path.clean), IsCleanAbs member :=
    fun member inSet => clean member ((members member).mp inSet)
  simp only [reduce, List.mem_filter, members, Bool.not_eq_true']
  constructor
  · rintro ⟨member, outermost⟩
    refine ⟨member, fun other otherMember => ?_⟩
    by_contra below
    rw [Bool.not_eq_false] at below
    have found := (hasAncestorIn_iff cleanSet (clean path member)).mpr
      ⟨other, (members other).mpr otherMember, below⟩
    rw [found] at outermost
    exact Bool.noConfusion outermost
  · rintro ⟨member, outermost⟩
    refine ⟨member, ?_⟩
    by_contra found
    rw [Bool.not_eq_false] at found
    obtain ⟨other, otherMember, below⟩ := (hasAncestorIn_iff cleanSet (clean path member)).mp found
    rw [outermost other ((members other).mp otherMember)] at below
    exact Bool.noConfusion below

theorem mem_of_mem_reduce {paths : List String} (clean : ∀ path ∈ paths, IsCleanAbs path)
    {path : String} (kept : path ∈ reduce paths) : path ∈ paths :=
  ((mem_reduce clean).mp kept).1

/-- No kept path lies below another kept path. -/
theorem reduce_antichain {paths : List String} (clean : ∀ path ∈ paths, IsCleanAbs path)
    {top path : String} (keptTop : top ∈ reduce paths) (kept : path ∈ reduce paths) :
    isAncestor top path = false :=
  ((mem_reduce clean).mp kept).2 top (mem_of_mem_reduce clean keptTop)

/-- **Every path is covered by a kept one.** Walking to a strict ancestor shortens the path, so
the walk ends at a member with no strict ancestor among the paths. -/
theorem exists_mem_reduce_covers {paths : List String} (clean : ∀ path ∈ paths, IsCleanAbs path) :
    ∀ path ∈ paths, ∃ top ∈ reduce paths, Covers top path := by
  suffices bounded : ∀ n, ∀ path ∈ paths, path.length ≤ n → ∃ top ∈ reduce paths, Covers top path
    from fun path member => bounded path.length path member le_rfl
  intro n
  induction n with
  | zero =>
    intro path member short
    refine ⟨path, (mem_reduce clean).mpr ⟨member, fun other _ => ?_⟩, Covers.refl path⟩
    by_contra below
    rw [Bool.not_eq_false] at below
    have shorter := length_lt_of_isAncestor below
    omega
  | succ n ih =>
    intro path member short
    by_cases outermost : ∀ other ∈ paths, isAncestor other path = false
    · exact ⟨path, (mem_reduce clean).mpr ⟨member, outermost⟩, Covers.refl path⟩
    · push Not at outermost
      obtain ⟨other, otherMember, below⟩ := outermost
      rw [Ne, Bool.not_eq_false] at below
      have shorter := length_lt_of_isAncestor below
      obtain ⟨top, kept, covers⟩ := ih other otherMember (by omega)
      exact ⟨top, kept, covers.trans (Covers.of_isAncestor below)⟩

/-- A path kept from one list is kept from another when each list covers the other. -/
theorem mem_reduce_of_covers {first second : List String}
    (clean : ∀ path ∈ first, IsCleanAbs path) (clean' : ∀ path ∈ second, IsCleanAbs path)
    (coveredBySecond : ∀ path ∈ first, ∃ top ∈ second, Covers top path)
    (coveredByFirst : ∀ path ∈ second, ∃ top ∈ first, Covers top path)
    {path : String} (kept : path ∈ reduce first) : path ∈ reduce second := by
  obtain ⟨member, outermost⟩ := (mem_reduce clean).mp kept
  -- the cover of `path` in `second` is covered back by a member of `first`, which can only be
  -- `path` itself since `path` is outermost in `first`
  obtain ⟨top, topMember, topCovers⟩ := coveredBySecond path member
  obtain ⟨back, backMember, backCovers⟩ := coveredByFirst top topMember
  have backIsPath : back = path := by
    rcases backCovers.trans topCovers with same | below
    · exact same
    · rw [outermost back backMember] at below
      exact Bool.noConfusion below
  subst backIsPath
  have topIsPath : top = back := topCovers.antisymm backCovers
  subst topIsPath
  refine (mem_reduce clean').mpr ⟨topMember, fun other otherMember => ?_⟩
  by_contra below
  rw [Bool.not_eq_false] at below
  obtain ⟨outer, outerMember, outerCovers⟩ := coveredByFirst other otherMember
  have strict := Covers.isAncestor_trans outerCovers below
  rw [outermost outer outerMember] at strict
  exact Bool.noConfusion strict

/-- **Mutual covering, equal reduction.** Two lists of clean absolute paths, each of whose members
is covered by a member of the other, reduce to the same hierarchies. -/
theorem reduce_eq_of_covers {first second : List String}
    (clean : ∀ path ∈ first, IsCleanAbs path) (clean' : ∀ path ∈ second, IsCleanAbs path)
    (coveredBySecond : ∀ path ∈ first, ∃ top ∈ second, Covers top path)
    (coveredByFirst : ∀ path ∈ second, ∃ top ∈ first, Covers top path) :
    reduce first = reduce second :=
  PathSet.eq_of_mem_iff (pairwise_reduce first) (pairwise_reduce second) fun _ =>
    ⟨mem_reduce_of_covers clean clean' coveredBySecond coveredByFirst,
      mem_reduce_of_covers clean' clean coveredByFirst coveredBySecond⟩

/-- Reduction looks at the members of its list only. -/
theorem reduce_ofList (paths : List String) : reduce (PathSet.ofList paths) = reduce paths := by
  have same : PathSet.ofList ((PathSet.ofList paths).map Path.clean) =
      PathSet.ofList (paths.map Path.clean) :=
    PathSet.eq_of_mem_iff (PathSet.pairwise_ofList _) (PathSet.pairwise_ofList _) fun member => by
      simp
  simp only [reduce, same]

end Roots

end StableWatch
