import KeyedFlow.Program
import KeyedFlow.Proofs.WrittenTrees

/-!
# Reading written programs

A program that has been written as a JSON document, in one line or over several, is read from the document again
(`Program.parse_toJson`), whatever its operators and functions are made of.
-/

namespace KeyedFlow

namespace Operation

private theorem isWhole_toJson (operation : Operation) : operation.toJson.tree.IsWhole := by
  unfold toJson
  simp [Json.tree, Json.memberTrees, Json.Tree.IsWhole, Json.MembersWhole]

private theorem read_toJson (operation : Operation) : read operation.toJson.tree = .ok operation := by
  unfold toJson
  simp only [Json.tree, Json.memberTrees]
  rfl

end Operation

namespace Program

private theorem tree_toJson_none (operations : List Operation) :
    (toJson ⟨none, operations⟩).tree =
      .object [(⟨.ok "operations", .ok ()⟩, Json.tree (.list (operations.map Operation.toJson)))] := by
  simp only [toJson, List.nil_append, Json.tree, Json.memberTrees]

private theorem tree_toJson_some (n : UInt64) (operations : List Operation) :
    (toJson ⟨some n, operations⟩).tree =
      .object [(⟨.ok "partitions", .ok ()⟩, Json.tree (.count n.toNat)),
        (⟨.ok "operations", .ok ()⟩, Json.tree (.list (operations.map Operation.toJson)))] := by
  simp only [toJson, List.cons_append, List.nil_append, Json.tree, Json.memberTrees]

private theorem isWhole_operations (operations : List Operation) :
    (Json.tree (.list (operations.map Operation.toJson))).IsWhole := by
  rw [Json.tree, Json.Tree.IsWhole, Json.itemsWhole_iff, Json.trees_eq_map]
  intro t ht
  simp only [List.mem_map, exists_exists_and_eq_and] at ht
  obtain ⟨operation, -, rfl⟩ := ht
  exact operation.isWhole_toJson

private theorem isWhole_toJson (program : Program) : program.toJson.tree.IsWhole := by
  obtain ⟨partitions, operations⟩ := program
  have hoperations := isWhole_operations operations
  cases partitions with
  | none =>
    rw [tree_toJson_none]
    exact ⟨hoperations, trivial⟩
  | some n =>
    have hcount : (Json.tree (.count n.toNat)).IsWhole := by
      rw [Json.count, Json.tree]
      trivial
    rw [tree_toJson_some]
    exact ⟨hcount, hoperations, trivial⟩

private theorem Draft.field_partitions {draft : Draft} (h : draft.partitions = none) {t : Json.Tree}
    {partitions : Option UInt64} (ht : Json.readOption Json.readCount t = .ok partitions) :
    draft.field "partitions" t = some (.ok { draft with partitions := some partitions }) := by
  unfold field Json.readOnce
  rw [h, ht]
  rfl

private theorem Draft.field_operations {draft : Draft} (h : draft.operations = none) {t : Json.Tree}
    {operations : List Operation} (ht : Json.readList Operation.read t = .ok operations) :
    draft.field "operations" t = some (.ok { draft with operations := some operations }) := by
  unfold field Json.readOnce
  rw [h, ht]
  rfl

/-- A number of partitions that is there is read as it is written. -/
theorem readOption_tree (n : UInt64) :
    Json.readOption Json.readCount (Json.tree (.count n.toNat)) = .ok (some n) := by
  have hread := Json.readCount_tree n
  rw [Json.tree_count] at hread ⊢
  show (Json.readCount _).map some = _
  rw [hread]
  rfl

private theorem read_toJson (program : Program) : read program.toJson.tree = .ok program := by
  obtain ⟨partitions, operations⟩ := program
  have hoperations := Json.readList_tree Operation.read_toJson operations
  unfold read Json.readStructure
  cases partitions with
  | none =>
    rw [tree_toJson_none]
    dsimp only
    rw [Json.readMembers_cons rfl (Draft.field_operations rfl hoperations), Json.readMembers]
    rfl
  | some n =>
    rw [tree_toJson_some]
    dsimp only
    rw [Json.readMembers_cons rfl (Draft.field_partitions rfl (readOption_tree n)),
      Json.readMembers_cons rfl (Draft.field_operations rfl hoperations), Json.readMembers]
    rfl

/-- A program that has been written, in one line or over several, is read again as it was. -/
theorem parse_toJson (program : Program) (path : String) :
    parse path program.toJson.compact = .ok program ∧ parse path program.toJson.indented = .ok program := by
  have hwhole := program.isWhole_toJson
  have hread := program.read_toJson
  unfold parse
  rw [Json.ofText_eq (Json.ofText_compact hwhole) hread, Json.ofText_eq (Json.ofText_indented hwhole) hread]
  exact ⟨rfl, rfl⟩

end Program

end KeyedFlow
