import KeyedFlow.Proofs.Sorting

/-!
# What a comparison tells

The first difference of two lists is the index at which they part (`Validation.firstDifference_eq_some_iff`), and there
is none exactly when one list goes on where the other ends (`Validation.firstDifference_eq_none_iff`).  A comparison
looks for it in the sorted tables, which are the same for all orders of the records; so what it tells depends on how
often each record occurs and on nothing else (`Validation.compare_explains`).
-/

namespace KeyedFlow

namespace Table

private theorem length_sorted (t : Table) : t.sorted.length = t.length :=
  t.sorted_perm.length_eq

private theorem equivalent_iff_perm {t u : Table} : t.equivalent u = true ↔ t.Perm u := by
  unfold equivalent
  rw [Bool.and_eq_true, beq_iff_eq, beq_iff_eq, sorted_eq_iff]
  exact ⟨fun h => h.2, fun h => ⟨h.length_eq, h⟩⟩

end Table

namespace Validation

section

variable {α : Type} [DecidableEq α]

private theorem firstDifference_comm (as bs : List α) : firstDifference as bs = firstDifference bs as := by
  induction as generalizing bs with
  | nil => cases bs <;> rfl
  | cons a as ih =>
    cases bs with
    | nil => rfl
    | cons b bs =>
      unfold firstDifference
      by_cases h : a = b
      · rw [if_pos h, if_pos h.symm, ih]
      · rw [if_neg h, if_neg (Ne.symm h)]

/-- The first difference is the index at which two lists part. -/
theorem firstDifference_eq_some_iff {as bs : List α} {i : Nat} :
    firstDifference as bs = some i ↔
      i < as.length ∧ i < bs.length ∧ (∀ j < i, as[j]? = bs[j]?) ∧ as[i]? ≠ bs[i]? := by
  induction as generalizing bs i with
  | nil => simp [firstDifference]
  | cons a as ih =>
    cases bs with
    | nil => simp [firstDifference]
    | cons b bs =>
      unfold firstDifference
      by_cases h : a = b
      · rw [if_pos h]
        cases i with
        | zero => simp [h]
        | succ i =>
          simp only [Option.map_eq_some_iff, Nat.add_right_cancel_iff, exists_eq_right, ih, List.length_cons,
            Nat.add_lt_add_iff_right, List.getElem?_cons_succ]
          have hbelow : (∀ j < i, as[j]? = bs[j]?) ↔ ∀ j < i + 1, (a :: as)[j]? = (b :: bs)[j]? := by
            constructor
            · intro hrest j hj
              cases j with
              | zero => simp [h]
              | succ j => simpa using hrest j (by omega)
            · intro hall j hj
              simpa using hall (j + 1) (by omega)
          rw [hbelow]
      · rw [if_neg h]
        cases i with
        | zero => simp [h]
        | succ i =>
          -- the lists part before any later index
          constructor
          · intro hsome
            cases hsome
          · rintro ⟨-, -, hall, -⟩
            exact absurd (Option.some.inj (hall 0 (Nat.zero_lt_succ i))) h

/-- Two lists have no first difference when one of them begins with the other. -/
theorem firstDifference_eq_none_iff {as bs : List α} : firstDifference as bs = none ↔ as <+: bs ∨ bs <+: as := by
  induction as generalizing bs with
  | nil => simp [firstDifference]
  | cons a as ih =>
    cases bs with
    | nil => simp [firstDifference]
    | cons b bs =>
      unfold firstDifference
      by_cases h : a = b
      · rw [if_pos h, Option.map_eq_none_iff, ih, List.cons_prefix_cons, List.cons_prefix_cons]
        simp [h]
      · rw [if_neg h, List.cons_prefix_cons, List.cons_prefix_cons]
        simp [h, Ne.symm h]

end

/-- The validation with the result and the expected table in each other's place. -/
def swapped : Validation → Validation
  | .correct => .correct
  | .incorrect generatedRows expectedRows firstMismatch => .incorrect expectedRows generatedRows firstMismatch
  | .unavailable missing => .unavailable missing

private theorem compare_swapped (generated expected : Table) :
    compare expected generated = (compare generated expected).swapped := by
  unfold compare
  by_cases h : generated.sorted = expected.sorted
  · rw [if_pos h, if_pos h.symm]
    rfl
  · rw [if_neg h, if_neg (Ne.symm h), firstDifference_comm]
    rfl

private theorem compare_perm {generated generated' expected expected' : Table} (hg : generated.Perm generated')
    (he : expected.Perm expected') : compare generated' expected' = compare generated expected := by
  unfold compare
  rw [Table.sorted_eq_iff.2 hg, Table.sorted_eq_iff.2 he, hg.length_eq, he.length_eq]

private theorem compare_eq_incorrect_iff {generated expected : Table} {m n : Nat} {mismatch : Option Nat} :
    compare generated expected = .incorrect m n mismatch ↔
      m = generated.length ∧ n = expected.length ∧ generated.sorted ≠ expected.sorted ∧
        firstDifference generated.sorted expected.sorted = mismatch := by
  unfold compare
  by_cases h : generated.sorted = expected.sorted
  · simp [h]
  · simp [h, eq_comm]

private theorem compare_eq_incorrect_some_iff {generated expected : Table} {m n i : Nat} :
    compare generated expected = .incorrect m n (some i) ↔
      m = generated.length ∧ n = expected.length ∧ i < m ∧ i < n ∧
        (∀ j < i, generated.sorted[j]? = expected.sorted[j]?) ∧ generated.sorted[i]? ≠ expected.sorted[i]? := by
  rw [compare_eq_incorrect_iff, firstDifference_eq_some_iff, generated.length_sorted, expected.length_sorted]
  constructor
  · rintro ⟨rfl, rfl, -, hdifference⟩
    exact ⟨rfl, rfl, hdifference⟩
  · rintro ⟨rfl, rfl, hdifference⟩
    have hne : generated.sorted ≠ expected.sorted := by
      intro heq
      rw [heq] at hdifference
      exact hdifference.2.2.2 rfl
    exact ⟨rfl, rfl, hne, hdifference⟩

/-- Without a first difference, the lengths differ, and the shorter table is the beginning of the longer one. -/
private theorem compare_eq_incorrect_none_iff {generated expected : Table} {m n : Nat} :
    compare generated expected = .incorrect m n none ↔
      m = generated.length ∧ n = expected.length ∧
        (m < n ∧ generated.sorted <+: expected.sorted ∨ n < m ∧ expected.sorted <+: generated.sorted) := by
  rw [compare_eq_incorrect_iff, firstDifference_eq_none_iff]
  have hgenerated := generated.length_sorted
  have hexpected := expected.length_sorted
  constructor
  · rintro ⟨rfl, rfl, hne, hpart | hpart⟩
    · have hlt : ¬expected.length ≤ generated.length := by
        intro hle
        exact hne (hpart.eq_of_length_le (by omega))
      exact ⟨rfl, rfl, Or.inl ⟨by omega, hpart⟩⟩
    · have hlt : ¬generated.length ≤ expected.length := by
        intro hle
        exact hne (hpart.eq_of_length_le (by omega)).symm
      exact ⟨rfl, rfl, Or.inr ⟨by omega, hpart⟩⟩
  · rintro ⟨rfl, rfl, hpart⟩
    have hne : generated.sorted ≠ expected.sorted := by
      intro heq
      rw [heq] at hgenerated
      omega
    exact ⟨rfl, rfl, hne, hpart.imp And.right And.right⟩

/-- A result is correct exactly when it has every record as often as the expected table.  What a comparison tells does
not depend on the order of the records, and it is told of both sides alike.  A difference is told with the numbers of
rows and with the first index at which the two tables, sorted by key and then by value, are not the same; if one of them
only has more rows than the other, no index is told. -/
theorem compare_explains (generated expected : Table) :
    (compare generated expected = .correct ↔ ∀ r, generated.count r = expected.count r) ∧
    (compare generated expected = .correct ↔ generated.equivalent expected = true) ∧
    (∀ generated' expected', generated.Perm generated' → expected.Perm expected' →
      compare generated' expected' = compare generated expected) ∧
    compare expected generated = (compare generated expected).swapped ∧
    (∀ t : Table, t.sorted.Perm t ∧ t.sorted.Pairwise fun r s => r.key < s.key ∨ r.key = s.key ∧ r.value ≤ s.value) ∧
    (∀ m n i, compare generated expected = .incorrect m n (some i) ↔
      m = generated.length ∧ n = expected.length ∧ i < m ∧ i < n ∧
        (∀ j < i, generated.sorted[j]? = expected.sorted[j]?) ∧ generated.sorted[i]? ≠ expected.sorted[i]?) ∧
    ∀ m n, compare generated expected = .incorrect m n none ↔
      m = generated.length ∧ n = expected.length ∧
        (m < n ∧ generated.sorted <+: expected.sorted ∨ n < m ∧ expected.sorted <+: generated.sorted) := by
  refine ⟨?_, ?_, fun _ _ => compare_perm, compare_swapped generated expected, fun t => ⟨t.sorted_perm, ?_⟩,
    fun _ _ _ => compare_eq_incorrect_some_iff, fun _ _ => compare_eq_incorrect_none_iff⟩
  · rw [compare_eq_correct_iff, List.perm_iff_count]
  · rw [compare_eq_correct_iff, Table.equivalent_iff_perm]
  · exact t.pairwise_sorted.imp Record.le_iff.1

/-- A repeated record is a difference at the second row, in whichever order and on whichever side it stands. -/
theorem compare_explains_duplicate :
    let generated : Table := [⟨2, 7⟩, ⟨1, 5⟩, ⟨1, 5⟩]
    let expected : Table := [⟨1, 5⟩, ⟨2, 7⟩]
    generated.Perm [⟨1, 5⟩, ⟨1, 5⟩, ⟨2, 7⟩] ∧ expected.Perm [⟨2, 7⟩, ⟨1, 5⟩] ∧
      compare generated expected = .incorrect 3 2 (some 1) ∧
      compare [⟨1, 5⟩, ⟨1, 5⟩, ⟨2, 7⟩] [⟨2, 7⟩, ⟨1, 5⟩] = .incorrect 3 2 (some 1) ∧
      compare expected generated = .incorrect 2 3 (some 1) := by
  intro generated expected
  have hgenerated : generated.Perm [⟨1, 5⟩, ⟨1, 5⟩, ⟨2, 7⟩] := by decide
  have hexpected : expected.Perm [⟨2, 7⟩, ⟨1, 5⟩] := by decide
  obtain ⟨-, -, hperm, hswapped, -, hsome, -⟩ := compare_explains generated expected
  have hcompare : compare generated expected = .incorrect 3 2 (some 1) := by
    have hsorted : generated.sorted = [⟨1, 5⟩, ⟨1, 5⟩, ⟨2, 7⟩] := by
      rw [Table.sorted_eq_iff.2 hgenerated]
      exact List.mergeSort_of_pairwise (by decide)
    have hsorted' : expected.sorted = [⟨1, 5⟩, ⟨2, 7⟩] := List.mergeSort_of_pairwise (by decide)
    rw [hsome, hsorted, hsorted']
    decide
  refine ⟨hgenerated, hexpected, hcompare, ?_, ?_⟩
  · rw [hperm _ _ hgenerated hexpected, hcompare]
  · rw [hswapped, hcompare]
    rfl

end Validation

end KeyedFlow
