import KeyedFlow.Validation

/-!
# Sorted tables

The order of records by key and value is total, so two tables have the same sorted form exactly when one is a
permutation of the other (`Table.sorted_eq_iff`).  Comparing a result with the expected one decides just that
(`Validation.compare_eq_correct_iff`).
-/

namespace KeyedFlow

namespace Record

/-- Records are ordered by key, and by value where the keys are equal. -/
theorem le_iff {r s : Record} : r.le s = true ↔ r.key < s.key ∨ r.key = s.key ∧ r.value ≤ s.value := by
  simp [le]

private theorem le_trans {r s u : Record} (h₁ : r.le s = true) (h₂ : s.le u = true) : r.le u = true := by
  rw [le_iff] at h₁ h₂ ⊢
  rcases h₁ with h₁ | ⟨hk₁, hv₁⟩
  · left
    rcases h₂ with h₂ | ⟨hk₂, -⟩
    · exact Int64.lt_trans h₁ h₂
    · exact hk₂ ▸ h₁
  · rw [hk₁]
    rcases h₂ with h₂ | ⟨hk₂, hv₂⟩
    · exact Or.inl h₂
    · exact Or.inr ⟨hk₂, Int64.le_trans hv₁ hv₂⟩

private theorem le_total (r s : Record) : (r.le s || s.le r) = true := by
  rw [Bool.or_eq_true, le_iff, le_iff]
  by_cases hk : r.key = s.key
  · rcases Int64.le_total r.value s.value with hv | hv
    · exact Or.inl (Or.inr ⟨hk, hv⟩)
    · exact Or.inr (Or.inr ⟨hk.symm, hv⟩)
  · rcases Int64.le_total r.key s.key with h | h
    · exact Or.inl (Or.inl (Int64.lt_of_le_of_ne h hk))
    · exact Or.inr (Or.inl (Int64.lt_of_le_of_ne h (Ne.symm hk)))

private theorem le_antisymm {r s : Record} (h₁ : r.le s = true) (h₂ : s.le r = true) : r = s := by
  rw [le_iff] at h₁ h₂
  obtain ⟨rk, rv⟩ := r
  obtain ⟨sk, sv⟩ := s
  dsimp only at h₁ h₂
  rcases h₁ with h₁ | ⟨rfl, hv₁⟩
  · rcases h₂ with h₂ | ⟨hk, -⟩
    · exact absurd h₂ (Int64.lt_asymm h₁)
    · exact absurd h₁ (hk ▸ Int64.lt_irrefl)
  · rcases h₂ with h₂ | ⟨-, hv₂⟩
    · exact absurd h₂ Int64.lt_irrefl
    · rw [Int64.le_antisymm hv₁ hv₂]

end Record

namespace Table

/-- Sorting a table changes only the order of its records. -/
theorem sorted_perm (t : Table) : t.sorted.Perm t :=
  List.mergeSort_perm t Record.le

/-- A sorted table is in order. -/
theorem pairwise_sorted (t : Table) : t.sorted.Pairwise fun r s => r.le s = true := by
  unfold sorted
  apply List.pairwise_mergeSort
  · intro r s u h₁ h₂
    exact Record.le_trans h₁ h₂
  · exact Record.le_total

/-- Tables have the same sorted form exactly when they hold the same records equally often. -/
theorem sorted_eq_iff {t u : Table} : t.sorted = u.sorted ↔ t.Perm u := by
  constructor
  · intro h
    exact t.sorted_perm.symm.trans (h ▸ u.sorted_perm)
  · intro h
    have hperm : t.sorted.Perm u.sorted := t.sorted_perm.trans (h.trans u.sorted_perm.symm)
    have hantisymm : ∀ r s, r ∈ t.sorted → s ∈ u.sorted → r.le s = true → s.le r = true → r = s := by
      intro r s _ _
      exact Record.le_antisymm
    exact hperm.eq_of_pairwise hantisymm t.pairwise_sorted u.pairwise_sorted

end Table

/-- A result is correct exactly when it has the records of the expected table, in any order. -/
theorem Validation.compare_eq_correct_iff {generated expected : Table} :
    compare generated expected = .correct ↔ generated.Perm expected := by
  rw [← Table.sorted_eq_iff]
  unfold compare
  split
  · simp_all
  · simp_all

end KeyedFlow
