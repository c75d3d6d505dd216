import StableWatch.Proofs.ParentWalk
import StableWatch.Proofs.RootSet
/-!
# Three tests of lying below

Three tests decide whether one path lies strictly below another. `Path.isAncestor` rules out
equal paths, then asks whether the separator form of the upper path starts the lower one.
`Root.contains` asks the same about prefixes, with no test for equality. `Roots.hasAncestorIn`
walks up from the lower path with `Path.dir`.

For clean absolute paths, lying strictly below is `Path.Below`: the upper path names a proper
prefix of the components of the lower one. `isAncestor` decides it (`isAncestor_iff_below`), and
so does the parent walk (`hasAncestorIn_singleton_iff_below`). `Root.contains` decides it too,
except at the root. The separator form of `/` is `/` itself, which starts `/`, so the root `/`
contains itself (`root_contains_self_iff`), while no other root contains itself.
-/

namespace StableWatch.Path

/-- `lower` lies strictly below `upper`: `lower` is the absolute path of some components, and
`upper` is the absolute path of a proper prefix of them. -/
def Below (upper lower : String) : Prop :=
  ∃ parts : List (List Char), (∀ piece ∈ parts, Component piece) ∧
    lower.toList = rootedText parts ∧ ∃ k < parts.length, upper.toList = rootedText (parts.take k)

/-- Below a clean absolute path lie exactly the parents that walking up from it reaches. -/
theorem below_iff_mem_ancestors {upper lower : String} (cleanLower : IsCleanAbs lower) :
    Below upper lower ↔ upper ∈ Roots.ancestors lower := by
  obtain ⟨parts, components, text⟩ := isCleanAbs_iff.mp cleanLower
  rw [mem_ancestors_rootedText components text]
  constructor
  · rintro ⟨parts', components', text', found⟩
    -- a clean absolute path names one list of components
    have same : parts' = parts := rootedText_injective components' components (text'.symm.trans text)
    exact same ▸ found
  · exact fun found => ⟨parts, components, text, found⟩

theorem isAncestor_iff_below {upper lower : String} (cleanUpper : IsCleanAbs upper)
    (cleanLower : IsCleanAbs lower) : isAncestor upper lower = true ↔ Below upper lower := by
  rw [isAncestor_iff_mem_ancestors cleanUpper cleanLower, below_iff_mem_ancestors cleanLower]

theorem hasAncestorIn_singleton_iff_below {upper lower : String} (cleanLower : IsCleanAbs lower) :
    Roots.hasAncestorIn [upper] lower = true ↔ Below upper lower := by
  rw [below_iff_mem_ancestors cleanLower]
  simp [Roots.hasAncestorIn]

/-- The separator form of a clean absolute path starts the path only for the root, whose
separator form is itself. -/
theorem withSeparator_prefix_self_iff {path : String} (cleanPath : IsCleanAbs path) :
    (withSeparator path).toList <+: path.toList ↔ path = "/" := by
  obtain ⟨parts, components, text⟩ := isCleanAbs_iff.mp cleanPath
  rw [withSeparator_toList_rootedText components text, text]
  by_cases empty : parts = []
  · subst empty
    have root : path = "/" := String.toList_inj.mp text
    simp [root, rootedText, joinPieces]
  · rw [if_neg empty]
    have longer : (rootedText parts ++ ['/']).length > (rootedText parts).length := by simp
    refine ⟨fun isPrefix => absurd isPrefix.length_le (Nat.not_le.mpr longer), fun root => ?_⟩
    -- the root has no components
    have rootText : rootedText parts = ['/'] := by rw [← text, root]; rfl
    exact absurd (joinPieces_ne_nil (fun piece member => (components piece member).1) empty)
      (by simpa [rootedText] using rootText)

end StableWatch.Path

namespace StableWatch.Root

open StableWatch.Path

/-- **The root `/` contains itself**, and it is the only clean absolute root that does. -/
theorem root_contains_self_iff {path : String} (cleanPath : IsCleanAbs path) :
    (⟨path⟩ : Root).contains path = true ↔ path = "/" := by
  rw [contains_iff]
  exact withSeparator_prefix_self_iff cleanPath

/-- A clean absolute root contains the paths strictly below it, and the root `/` contains
itself as well. -/
theorem contains_iff_below {upper lower : String} (cleanUpper : IsCleanAbs upper)
    (cleanLower : IsCleanAbs lower) :
    (⟨upper⟩ : Root).contains lower = true ↔ Below upper lower ∨ (upper = "/" ∧ lower = "/") := by
  by_cases same : upper = lower
  · subst same
    rw [root_contains_self_iff cleanUpper, ← isAncestor_iff_below cleanUpper cleanUpper,
      isAncestor_irrefl]
    simp
  · have apart : ¬ (upper = "/" ∧ lower = "/") := fun ⟨upperRoot, lowerRoot⟩ =>
      same (upperRoot.trans lowerRoot.symm)
    rw [contains_iff, ← isAncestor_iff_below cleanUpper cleanLower, isAncestor_iff]
    simp [same, apart]

end StableWatch.Root

namespace StableWatch

open StableWatch.Path

/-- **The three tests of lying below agree off the root.** For clean absolute paths, `isAncestor`
and the parent walk of `hasAncestorIn` hold exactly when the lower path lies strictly below the
upper one; `Root.contains` does too, except that the root `/` contains itself. -/
theorem below_tests_agree_off_root {upper lower : String} (cleanUpper : IsCleanAbs upper)
    (cleanLower : IsCleanAbs lower) :
    (isAncestor upper lower = true ↔ Below upper lower) ∧
      (Roots.hasAncestorIn [upper] lower = true ↔ Below upper lower) ∧
      ((⟨upper⟩ : Root).contains lower = true ↔ Below upper lower ∨ (upper = "/" ∧ lower = "/")) :=
  ⟨isAncestor_iff_below cleanUpper cleanLower, hasAncestorIn_singleton_iff_below cleanLower,
    Root.contains_iff_below cleanUpper cleanLower⟩

/-- At the root itself the three tests are asked about two clean absolute paths. -/
theorem below_tests_at_root :
    IsCleanAbs "/" ∧
      ((isAncestor "/" "/" = true ↔ Below "/" "/") ∧
        (Roots.hasAncestorIn ["/"] "/" = true ↔ Below "/" "/") ∧
        ((⟨"/"⟩ : Root).contains "/" = true ↔ Below "/" "/" ∨ ("/" = "/" ∧ "/" = "/"))) := by
  have cleanRoot : IsCleanAbs "/" := ⟨by decide, by decide⟩
  exact ⟨cleanRoot, below_tests_agree_off_root cleanRoot cleanRoot⟩

/-- The root `/` contains itself, while `isAncestor` and the parent walk do not put it below
itself. -/
theorem root_contains_itself :
    (⟨"/"⟩ : Root).contains "/" = true ∧ isAncestor "/" "/" = false ∧
      Roots.hasAncestorIn ["/"] "/" = false := by
  decide

end StableWatch
