import Mathlib.Data.List.Sort
import Mathlib.Tactic.Common

/-!
# Ranking the members of a list

A sort by a relation that orders the members of a list, if perhaps nothing else, does not depend on
the order they came in. Nor does what is taken from its head.
-/

namespace Ranking

variable {α β : Type} {r : α → α → Prop} {xs ys : List α}

/-- A relation that is a linear order on the members of a list. -/
structure Orders (r : α → α → Prop) (xs : List α) : Prop where
  /-- of two members one comes first -/
  total : ∀ a ∈ xs, ∀ b ∈ xs, r a b ∨ r b a
  /-- in the same order as what comes between them -/
  trans : ∀ a ∈ xs, ∀ b ∈ xs, ∀ c ∈ xs, r a b → r b c → r a c
  /-- and only one -/
  antisymm : ∀ a ∈ xs, ∀ b ∈ xs, r a b → r b a → a = b

theorem Orders.of_linearOrder [LinearOrder α] (xs : List α) : Orders (· ≤ ·) xs :=
  ⟨fun a _ b _ => le_total a b, fun _ _ _ _ _ _ => le_trans, fun _ _ _ _ => le_antisymm⟩

theorem Orders.of_subset (h : Orders r xs) (hsub : ys ⊆ xs) : Orders r ys :=
  ⟨fun a ha b hb => h.total a (hsub ha) b (hsub hb),
    fun a ha b hb c hc => h.trans a (hsub ha) b (hsub hb) c (hsub hc),
    fun a ha b hb => h.antisymm a (hsub ha) b (hsub hb)⟩

/-- The highest rank first, and by another order where ranks tie. -/
theorem Orders.byRank [LinearOrder β] (h : Orders r xs) (rank : α → β) :
    Orders (fun a b => rank b < rank a ∨ rank b = rank a ∧ r a b) xs := by
  refine ⟨fun a ha b hb => ?_, fun a ha b hb c hc hab hbc => ?_, fun a ha b hb hab hba => ?_⟩
  · rcases lt_trichotomy (rank a) (rank b) with hlt | heq | hgt
    · exact Or.inr (Or.inl hlt)
    · rcases h.total a ha b hb with hab | hba
      · exact Or.inl (Or.inr ⟨heq.symm, hab⟩)
      · exact Or.inr (Or.inr ⟨heq, hba⟩)
    · exact Or.inl (Or.inl hgt)
  · rcases hab with hlt | ⟨heq, hab⟩
    · rcases hbc with hlt' | ⟨heq', -⟩
      · exact Or.inl (hlt'.trans hlt)
      · exact Or.inl (heq' ▸ hlt)
    · rcases hbc with hlt' | ⟨heq', hbc⟩
      · exact Or.inl (heq ▸ hlt')
      · exact Or.inr ⟨heq'.trans heq, h.trans a ha b hb c hc hab hbc⟩
  · rcases hab with hlt | ⟨heq, hab⟩
    · rcases hba with hlt' | ⟨heq', -⟩
      · exact absurd hlt' hlt.not_gt
      · exact absurd heq' hlt.ne'
    · rcases hba with hlt' | ⟨-, hba⟩
      · exact absurd heq hlt'.ne'
      · exact h.antisymm a ha b hb hab hba

variable [DecidableRel r]

/-- The sort is in order. -/
theorem pairwise_insertionSort (h : Orders r xs) : (xs.insertionSort r).Pairwise r := by
  -- the relation is a linear order on the subtype of the members
  have : Std.Total fun a b : { a // a ∈ xs } => r a b := ⟨fun a b => h.total a a.2 b b.2⟩
  have : IsTrans { a // a ∈ xs } fun a b => r a b :=
    ⟨fun a b c => h.trans a a.2 b b.2 c c.2⟩
  have hmap := List.map_insertionSort (fun a b : { a // a ∈ xs } => r a b) r Subtype.val xs.attach
    fun _ _ _ _ => Iff.rfl
  rw [List.attach_map_subtype_val] at hmap
  rw [← hmap, List.pairwise_map]
  exact List.pairwise_insertionSort _ xs.attach

/-- Members in another order are sorted alike. -/
theorem insertionSort_eq_of_perm (h : Orders r xs) (hperm : xs.Perm ys) :
    xs.insertionSort r = ys.insertionSort r := by
  have hsorted := pairwise_insertionSort h
  have hsorted' := pairwise_insertionSort (h.of_subset hperm.symm.subset)
  have hperm' : (xs.insertionSort r).Perm (ys.insertionSort r) :=
    (List.perm_insertionSort r xs).trans (hperm.trans (List.perm_insertionSort r ys).symm)
  refine hperm'.eq_of_pairwise (fun a b ha hb hab hba => ?_) hsorted hsorted'
  rw [List.mem_insertionSort] at ha hb
  exact h.antisymm a ha b (hperm.symm.subset hb) hab hba

end Ranking
