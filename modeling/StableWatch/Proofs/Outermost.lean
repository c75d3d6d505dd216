import StableWatch.Proofs.ParentWalk
import StableWatch.Proofs.Reduce
/-!
# Reduction keeps the outermost of any paths

`Roots.reduce` works on any texts, relative and empty ones included: it cleans them, and of the
cleaned paths keeps those that have no strict ancestor among them, in increasing order
(`mem_reduce_iff`). So the result depends only on the set of cleaned paths (`reduce_congr`);
every cleaned path is a kept one or lies below one (`exists_mem_reduce_covering`), since going up
from a clean path ends; no kept path lies below another (`not_strictAncestor_of_mem_reduce`); and
reducing again changes nothing (`reduce_reduce`).
-/

namespace StableWatch.Roots

open StableWatch.Path

variable {paths : List String}

theorem clean_eq_of_mem_map_clean {path : String} (member : path ∈ paths.map clean) :
    clean path = path := by
  obtain ⟨given, -, rfl⟩ := List.mem_map.mp member
  exact clean_clean given

/-- **What reduction keeps.** The cleaned paths that have no strict ancestor among the cleaned
paths. -/
theorem mem_reduce_iff {path : String} :
    path ∈ reduce paths ↔ path ∈ paths.map clean ∧
      ∀ ancestor, StrictAncestor ancestor path → ancestor ∉ paths.map clean := by
  simp only [reduce, List.mem_filter, PathSet.mem_ofList, Bool.not_eq_true']
  constructor
  · rintro ⟨member, outermost⟩
    refine ⟨member, fun ancestor above inPaths => ?_⟩
    have found := (hasAncestorIn_iff_strictAncestor (clean_eq_of_mem_map_clean member)).mpr
      ⟨ancestor, PathSet.mem_ofList.mpr inPaths, above⟩
    rw [found] at outermost
    exact Bool.noConfusion outermost
  · rintro ⟨member, outermost⟩
    refine ⟨member, Bool.eq_false_iff.mpr fun found => ?_⟩
    obtain ⟨ancestor, inSet, above⟩ :=
      (hasAncestorIn_iff_strictAncestor (clean_eq_of_mem_map_clean member)).mp found
    exact outermost ancestor above (PathSet.mem_ofList.mp inSet)

/-- Reduction depends on the set of cleaned paths only. -/
theorem reduce_congr {other : List String}
    (same : ∀ path, path ∈ paths.map clean ↔ path ∈ other.map clean) :
    reduce paths = reduce other :=
  PathSet.eq_of_mem_iff (pairwise_reduce paths) (pairwise_reduce other) fun path => by
    simp only [mem_reduce_iff, same]

/-- **Every cleaned path is kept or lies below a kept one.** Going up from a clean path drops a
component each step, so among the cleaned paths at or above it there is an outermost one. -/
theorem exists_mem_reduce_covering {path : String} (member : path ∈ paths.map clean) :
    ∃ top ∈ reduce paths, top = path ∨ StrictAncestor top path := by
  induction h : depth path using Nat.strong_induction_on generalizing path with
  | _ n ih =>
    by_cases outermost : ∀ ancestor, StrictAncestor ancestor path → ancestor ∉ paths.map clean
    · exact ⟨path, mem_reduce_iff.mpr ⟨member, outermost⟩, Or.inl rfl⟩
    · push Not at outermost
      obtain ⟨ancestor, above, inPaths⟩ := outermost
      have shallower := above.depth_lt (clean_eq_of_mem_map_clean member)
      obtain ⟨top, kept, covers⟩ := ih _ (h ▸ shallower) inPaths rfl
      refine ⟨top, kept, Or.inr ?_⟩
      rcases covers with rfl | above'
      · exact above
      · exact above'.trans above

/-- No kept path lies below another kept path. -/
theorem not_strictAncestor_of_mem_reduce {top path : String} (keptTop : top ∈ reduce paths)
    (kept : path ∈ reduce paths) : ¬ StrictAncestor top path :=
  fun above => (mem_reduce_iff.mp kept).2 top above (mem_reduce_iff.mp keptTop).1

/-- **Reducing twice is reducing once.** -/
theorem reduce_reduce (paths : List String) : reduce (reduce paths) = reduce paths := by
  have cleaned : (reduce paths).map clean = reduce paths := by
    conv_rhs => rw [← List.map_id (reduce paths)]
    exact List.map_congr_left fun path kept =>
      clean_eq_of_mem_map_clean (mem_reduce_iff.mp kept).1
  refine PathSet.eq_of_mem_iff (pairwise_reduce _) (pairwise_reduce _) fun path => ?_
  rw [mem_reduce_iff, cleaned]
  exact ⟨fun kept => kept.1, fun kept => ⟨kept, fun ancestor above keptAbove =>
    not_strictAncestor_of_mem_reduce keptAbove kept above⟩⟩

/-- **Reduction lists the outermost cleaned paths.** Of any texts, reduction lists in increasing
order (the byte order of their UTF-8 encoding) exactly the cleaned paths that have no strict
ancestor among the cleaned paths. Hence it depends only on the set of cleaned paths, every
cleaned path is kept or lies below a kept one, no kept path lies below another, and reducing
again changes nothing. -/
theorem reduce_lists_outermost_cleaned (paths : List String) :
    (reduce paths).Pairwise (· < ·) ∧
      (∀ path, path ∈ reduce paths ↔ path ∈ paths.map clean ∧
        ∀ ancestor, StrictAncestor ancestor path → ancestor ∉ paths.map clean) ∧
      (∀ other : List String, (∀ path, path ∈ paths.map clean ↔ path ∈ other.map clean) →
        reduce other = reduce paths) ∧
      (∀ path ∈ paths.map clean, ∃ top ∈ reduce paths, top = path ∨ StrictAncestor top path) ∧
      (∀ top ∈ reduce paths, ∀ path ∈ reduce paths, ¬ StrictAncestor top path) ∧
      reduce (reduce paths) = reduce paths :=
  ⟨pairwise_reduce paths, fun _ => mem_reduce_iff, fun _ same => (reduce_congr same).symm,
    fun _ member => exists_mem_reduce_covering member,
    fun _ keptTop _ kept => not_strictAncestor_of_mem_reduce keptTop kept, reduce_reduce paths⟩

-- the empty text cleans to `.`, which lies above every relative path
example : reduce ["a/b", "", "/x/y", "/x", "b/../c/"] = [".", "/x"] := by decide

end StableWatch.Roots
