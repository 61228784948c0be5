import KeyedFlow.Proofs.KeyCounts

/-!
# Files of generated partitions

The file of a generated partition has a line for every row, with the number of the partition and the value drawn
(`Generation.encode_table`).  Generation replaces the partitions from one on in this way, up to the last or to the first
that cannot be written, and no other file (`Generation.perform_replaces`).  What is drawn can be any values from one up
to the maximum (`Generation.value_mem`, `Generation.exists_value_eq`).
-/

namespace KeyedFlow

private theorem toString_clamped (n : Nat) : toString (clamped n) = toString (min n 0x7FFFFFFFFFFFFFFF) := by
  have hmin : (clamped n).toInt = ((min n 0x7FFFFFFFFFFFFFFF : Nat) : Int) := by
    rw [toInt_clamped]
    omega
  exact congrArg toString hmin

/-- A table is written with one line for every record. -/
private theorem RecordFile.encode_eq_join (t : Table) :
    encode t = String.join (t.map fun r => toString r.key ++ "," ++ toString r.value ++ "\n") := by
  unfold encode
  rw [← String.toList_inj, String.toList_ofList, String.toList_join, List.flatMap_map]
  congr 1
  funext r
  simp [recordChars]

namespace Generation

variable {generation : Generation} {draws : Draws} {partitions : Partitions} {store after : FileStore}

/-- Every value from one up to the maximum can be drawn. -/
theorem exists_value_eq {v : Int64} (hone : 1 ≤ v) (hmax : v ≤ generation.maxValue) :
    ∃ word, generation.value word = v := by
  have hlo : 1 ≤ v.toInt := Int64.le_iff_toInt_le.1 hone
  have hhi := Int64.le_iff_toInt_le.1 hmax
  have hlt := v.toInt_lt
  have hword : (UInt64.ofNat (v.toInt.toNat - 1)).toNat = v.toInt.toNat - 1 :=
    UInt64.toNat_ofNat_of_lt' (show _ < 2 ^ 64 by omega)
  refine ⟨UInt64.ofNat (v.toInt.toNat - 1), ?_⟩
  rw [← Int64.toInt_inj, toInt_value (Int64.le_trans hone hmax), hword, Nat.mod_eq_of_lt (by omega)]
  omega

/-- The line of a row of a partition: the number of the partition, or the largest key where that is less, and the value
drawn. -/
def line (generation : Generation) (draws : Draws) (index row : Nat) : String :=
  toString (min index 0x7FFFFFFFFFFFFFFF) ++ "," ++
    toString (generation.value (draws ((index - 1) * generation.rowsPerKey.toNat + row))) ++ "\n"

/-- The file of a generated table has one line for each of its rows. -/
theorem encode_table (generation : Generation) (draws : Draws) (index : Nat) :
    RecordFile.encode (generation.table draws index) =
      String.join ((List.range generation.rowsPerKey.toNat).map (generation.line draws index)) := by
  rw [RecordFile.encode_eq_join]
  unfold table line
  rw [List.map_map, ← toString_clamped]
  rfl

private theorem keys_table (generation : Generation) (draws : Draws) (index : Nat) :
    Table.keys (generation.table draws index) = List.replicate generation.rowsPerKey.toNat (clamped index) := by
  unfold Table.keys table
  simp [Function.comp_def]

/-- Whether a store comes from another by generating the first `count` partitions: their files have the lines of their
rows, and nothing else has changed, be it a partition or not. -/
structure Replaces (generation : Generation) (draws : Draws) (partitions : Partitions) (store after : FileStore)
    (count : Nat) : Prop where
  lines : ∀ i, 1 ≤ i → i ≤ count → ∃ location, after.resolve (partitions.path i) =
    .file location (String.join ((List.range generation.rowsPerKey.toNat).map (generation.line draws i))).toUTF8
  others : ∀ location, (∀ i, 1 ≤ i → i ≤ count → location ≠ Path.location (partitions.path i)) →
    after.content? location = store.content? location
  above : ∀ i location content, count < i → store.resolve (partitions.path i) = .file location content →
    after.resolve (partitions.path i) = .file location content

private theorem replaces_of_writes {count : Nat}
    (h : partitions.Writes store after 1 ((List.range' 1 count).map (generation.table draws))) :
    generation.Replaces draws partitions store after count := by
  have hlength : ((List.range' 1 count).map (generation.table draws)).length = count := by
    rw [List.length_map, List.length_range']
  constructor
  · intro i hlo hhi
    obtain ⟨location, hresolve⟩ := h.holds (i - 1) (by omega)
    refine ⟨location, ?_⟩
    rw [List.getElem_map, List.getElem_range', Nat.one_mul, Nat.add_sub_cancel' hlo, encode_table] at hresolve
    exact hresolve
  · intro location hlocation
    exact h.others location fun i hi => hlocation (1 + i) (by omega) (by omega)
  · intro i location content hi hresolve
    exact h.resolve_eq hresolve fun k hk => Partitions.not_meet_path (by omega)

/-- Generation without a value to draw changes nothing.  If generation succeeds, all its partitions have been replaced,
and they are loaded as rows with ascending keys.  If it fails, it is at one of its partitions, and the ones before it
have been replaced.  No other file changes.  Values are drawn from one up to the maximum, and whatever values of this
kind are asked for, there are draws of them. -/
theorem perform_replaces (generation : Generation) (draws : Draws) (partitions : Partitions) (store : FileStore) :
    let result := (generation.perform draws partitions).run store
    let rows := generation.rowsPerKey.toNat
    (generation.maxValue < 1 → result = (.error (.invalidDocument partitions.stem
      ("max value must be at least 1, got " ++ toString generation.maxValue)), store)) ∧
    (∀ count, result.1 = .ok count → count = generation.keys ∧
      generation.Replaces draws partitions store result.2 count.toNat ∧
      ∃ t, (partitions.load count.toNat).run result.2 = (.ok t, result.2) ∧ t.length = count.toNat * rows ∧
        Table.keys t = (List.range' 1 count.toNat).flatMap fun i => List.replicate rows (clamped i)) ∧
    (1 ≤ generation.maxValue →
      (∀ failure, result.1 = .error failure → failure = .storage ∧
        ∃ count between, count < generation.keys.toNat ∧
          (generation.writeFrom draws partitions 1 count).run store = (.ok (), between) ∧
          (partitions.write (count + 1) (generation.table draws (count + 1))).run between = (.error failure, result.2) ∧
          generation.Replaces draws partitions store result.2 count) ∧
      (∀ word, 1 ≤ generation.value word ∧ generation.value word ≤ generation.maxValue) ∧
      ∀ values : Nat → Int64, (∀ n, 1 ≤ values n ∧ values n ≤ generation.maxValue) →
        ∃ chosen : Draws, ∀ n, generation.value (chosen n) = values n) := by
  intro result rows
  have hresult : result = (generation.perform draws partitions).run store := rfl
  have hvalues : ∀ values : Nat → Int64, (∀ n, 1 ≤ values n ∧ values n ≤ generation.maxValue) →
      ∃ chosen : Draws, ∀ n, generation.value (chosen n) = values n := by
    intro values hmem
    choose chosen hchosen using fun n => exists_value_eq (hmem n).1 (hmem n).2
    exact ⟨chosen, hchosen⟩
  rcases generation.run_perform draws partitions store with
    ⟨hmax, hrun⟩ | ⟨hmax, after, hrun, hwrites⟩ |
    ⟨hmax, count, after, hlt, hrun, hwrites, between, hbetween, hwrite⟩
  · refine ⟨fun _ => hrun, fun count hok => ?_, fun hone => absurd hmax (Int64.not_lt.2 hone)⟩
    rw [hresult, hrun] at hok
    cases hok
  · rw [hresult, hrun]
    refine ⟨fun hlt => absurd hlt (Int64.not_lt.2 hmax), fun count hok => ?_,
      fun _ => ⟨fun failure herror => ?_, value_mem hmax, hvalues⟩⟩
    · cases hok
      refine ⟨rfl, replaces_of_writes hwrites, _, hwrites.run_load, ?_, ?_⟩
      · rw [length_flatMap_table, List.length_range']
      · unfold Table.keys
        rw [List.map_flatMap]
        exact List.flatMap_congr fun i _ => generation.keys_table draws i
    · cases herror
  · rw [hresult, hrun]
    refine ⟨fun hlt => absurd hlt (Int64.not_lt.2 hmax), fun count hok => ?_,
      fun _ => ⟨fun failure herror => ?_, value_mem hmax, hvalues⟩⟩
    · cases hok
    · cases herror
      exact ⟨rfl, count, between, hlt, hbetween, hwrite, replaces_of_writes hwrites⟩

/-- Two partitions can be written; of four, the third cannot, because a directory is in its place. -/
theorem perform_replaces_two :
    let partitions : Partitions := ⟨"key"⟩
    let store : FileStore := ⟨fun location =>
      if location = ["home"] ∨ location = ["home", "key3.csv"] then some .directory
      else if location = ["home", "key1.csv"] then some (.file "9,9\n9,9\n9,9\n".toUTF8)
      else if location = ["home", "key4.csv"] then some (.file "4,4\n".toUTF8) else none⟩
    let draws : Draws := fun n => UInt64.ofNat n
    let two : Generation := ⟨2, 2, 10⟩
    let four : Generation := ⟨4, 2, 10⟩
    (∃ after t, (two.perform draws partitions).run store = (.ok 2, after) ∧
      (∃ location, after.resolve (partitions.path 1) = .file location "1,1\n1,2\n".toUTF8) ∧
      (∃ location, after.resolve (partitions.path 2) = .file location "2,3\n2,4\n".toUTF8) ∧
      after.content? ["home", "key4.csv"] = some "4,4\n".toUTF8 ∧
      (partitions.load 2).run after = (.ok t, after) ∧ Table.keys t = [1, 1, 2, 2]) ∧
    ∃ after, (four.perform draws partitions).run store = (.error .storage, after) ∧
      ∃ count < 4, four.Replaces draws partitions store after count := by
  intro partitions store draws two four
  constructor
  · have hok : ((two.perform draws partitions).run store).1 = .ok 2 := by decide +kernel
    have hfirst : String.join ((List.range two.rowsPerKey.toNat).map (two.line draws 1)) = "1,1\n1,2\n" := by
      decide +kernel
    have hsecond : String.join ((List.range two.rowsPerKey.toNat).map (two.line draws 2)) = "2,3\n2,4\n" := by
      decide +kernel
    have hkept : store.content? ["home", "key4.csv"] = some "4,4\n".toUTF8 := rfl
    have hone : Path.location (partitions.path 1) ≠ ["home", "key4.csv"] := by decide +kernel
    have htwo : Path.location (partitions.path 2) ≠ ["home", "key4.csv"] := by decide +kernel
    have hkeyed : ((List.range' 1 2).flatMap fun i => List.replicate two.rowsPerKey.toNat (clamped i)) =
        [1, 1, 2, 2] := by
      decide +kernel
    obtain ⟨-, hsucceeds, -⟩ := perform_replaces two draws partitions store
    generalize (two.perform draws partitions).run store = result at hok hsucceeds ⊢
    obtain ⟨-, hreplaces, t, hload, -, hkeys⟩ := hsucceeds 2 hok
    obtain ⟨place, hlines⟩ := hreplaces.lines 1 (by decide) (by decide)
    obtain ⟨other, hothers⟩ := hreplaces.lines 2 (by decide) (by decide)
    rw [hfirst] at hlines
    rw [hsecond] at hothers
    have hfour : result.2.content? ["home", "key4.csv"] = some "4,4\n".toUTF8 := by
      refine (hreplaces.others _ fun i hlo hhi => ?_).trans hkept
      have hhi : i ≤ 2 := hhi
      obtain rfl | rfl : i = 1 ∨ i = 2 := by omega
      · exact hone.symm
      · exact htwo.symm
    exact ⟨result.2, t, Prod.ext hok rfl, ⟨place, hlines⟩, ⟨other, hothers⟩, hfour, hload, hkeys.trans hkeyed⟩
  · have herror : ((four.perform draws partitions).run store).1 = .error .storage := by decide +kernel
    obtain ⟨-, -, hdrawn⟩ := perform_replaces four draws partitions store
    generalize (four.perform draws partitions).run store = result at herror hdrawn ⊢
    obtain ⟨-, count, -, hlt, -, -, hreplaces⟩ := (hdrawn (by decide)).1 _ herror
    exact ⟨result.2, Prod.ext herror rfl, count, hlt, hreplaces⟩

end Generation

end KeyedFlow
