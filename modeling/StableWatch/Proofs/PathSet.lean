import Mathlib
import StableWatch.Path.Set
/-!
# Increasing lists of paths as sets

Every set of paths the registry keeps is a list that increases strictly in the order of text.
This module gives the membership of each operation (`mem_insert`, `mem_ofList`, `mem_diff`,
`mem_union`), shows that each keeps a list increasing, and that two increasing lists with the same
members are equal (`eq_of_mem_iff`). Later proofs argue about members only and come back to lists
through `eq_of_mem_iff`.

The text order is the lexicographic order of the characters, in which a proper prefix comes first
(`lt_of_prefix`); this is what makes the first root of a generation that contains a path the
outermost one.
-/

namespace StableWatch.PathSet

/-! ### Membership -/

@[simp]
theorem mem_insert {path member : String} {paths : List String} :
    member ∈ insert path paths ↔ member = path ∨ member ∈ paths := by
  induction paths with
  | nil => simp [insert]
  | cons head rest ih =>
    unfold insert
    split_ifs with before same
    · simp
    · subst same
      simp
    · simp only [List.mem_cons, ih]
      tauto

@[simp]
theorem mem_ofList {member : String} {paths : List String} : member ∈ ofList paths ↔ member ∈ paths := by
  induction paths with
  | nil => simp [ofList]
  | cons head rest ih =>
    simp only [ofList, List.foldr_cons] at ih ⊢
    simp [ih]

@[simp]
theorem mem_diff {member : String} {paths removed : List String} :
    member ∈ diff paths removed ↔ member ∈ paths ∧ member ∉ removed := by
  simp [diff]

@[simp]
theorem mem_union {member : String} {first second : List String} :
    member ∈ union first second ↔ member ∈ first ∨ member ∈ second := by
  induction second with
  | nil => simp [union]
  | cons head rest ih =>
    simp only [union, List.foldr_cons] at ih ⊢
    rw [mem_insert, ih, List.mem_cons]
    tauto

/-! ### Order -/

/-- Inserting into an increasing list keeps it increasing. -/
theorem pairwise_insert (path : String) {paths : List String}
    (increasing : paths.Pairwise (· < ·)) : (insert path paths).Pairwise (· < ·) := by
  induction paths with
  | nil => simp [insert]
  | cons head rest ih =>
    obtain ⟨headFirst, restIncreasing⟩ := List.pairwise_cons.mp increasing
    unfold insert
    split_ifs with before same
    · refine List.pairwise_cons.mpr ⟨?_, increasing⟩
      intro other member
      rcases List.mem_cons.mp member with rfl | later
      · exact before
      · exact String.lt_trans before (headFirst other later)
    · exact increasing
    · refine List.pairwise_cons.mpr ⟨?_, ih restIncreasing⟩
      intro other member
      rcases mem_insert.mp member with rfl | later
      · rcases lt_trichotomy other head with lower | equal | higher
        · exact absurd lower before
        · exact absurd equal same
        · exact higher
      · exact headFirst other later

theorem pairwise_ofList (paths : List String) : (ofList paths).Pairwise (· < ·) := by
  induction paths with
  | nil => simp [ofList]
  | cons head rest ih =>
    simp only [ofList, List.foldr_cons] at ih ⊢
    exact pairwise_insert head ih

theorem pairwise_diff {paths : List String} (removed : List String)
    (increasing : paths.Pairwise (· < ·)) : (diff paths removed).Pairwise (· < ·) :=
  increasing.filter _

theorem pairwise_union {first : List String} (second : List String)
    (increasing : first.Pairwise (· < ·)) : (union first second).Pairwise (· < ·) := by
  induction second with
  | nil => simpa [union] using increasing
  | cons head rest ih =>
    simp only [union, List.foldr_cons] at ih ⊢
    exact pairwise_insert head ih

/-- Two increasing lists with the same members are the same list. -/
theorem eq_of_mem_iff {first second : List String} (increasing : first.Pairwise (· < ·))
    (increasing' : second.Pairwise (· < ·)) (same : ∀ member, member ∈ first ↔ member ∈ second) :
    first = second :=
  increasing.eq_of_mem_iff increasing' same

/-- A list of characters comes before every proper extension of it. -/
theorem lt_of_prefix {first second : List Char} (isPrefix : first <+: second)
    (different : first ≠ second) : first < second := by
  obtain ⟨rest, rfl⟩ := isPrefix
  induction first with
  | nil =>
    cases rest with
    | nil => exact absurd rfl different
    | cons c more => exact List.nil_lt_cons c more
  | cons c more ih =>
    refine List.cons_lt_cons_iff.mpr (Or.inr ⟨rfl, ih fun same => different ?_⟩)
    simp only [List.cons_append, List.cons.injEq, true_and]
    exact same

end StableWatch.PathSet
