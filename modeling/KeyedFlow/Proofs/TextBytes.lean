import KeyedFlow.RecordFile.Row

/-!
# The bytes of a text

A text is stored as the UTF-8 bytes of its characters.  A character below `0x80` is one byte, and all bytes of the
others are from `0x80` on (`Text.utf8EncodeChar_cases`), so a byte such as a comma or a line feed always stands for the
character itself.  Only the byte order mark is stored as the bytes that are dropped from the beginning of a record file.
-/

namespace KeyedFlow

/-- A text is decoded from its own bytes. -/
theorem fromUTF8?_toUTF8 (s : String) : String.fromUTF8? s.toUTF8 = some s :=
  dif_pos s.isValidUTF8

namespace Text

/-- The UTF-8 bytes of a text. -/
def bytes (s : List Char) : List UInt8 :=
  s.flatMap String.utf8EncodeChar

@[simp] theorem bytes_nil : bytes [] = [] := rfl

@[simp] theorem bytes_cons (c : Char) (s : List Char) : bytes (c :: s) = String.utf8EncodeChar c ++ bytes s := rfl

@[simp] theorem bytes_append (s t : List Char) : bytes (s ++ t) = bytes s ++ bytes t :=
  List.flatMap_append

theorem bytes_ne_nil {s : List Char} (h : s ≠ []) : bytes s ≠ [] := by
  obtain ⟨c, t, rfl⟩ := List.exists_cons_of_ne_nil h
  rw [bytes_cons]
  exact List.append_ne_nil_of_left_ne_nil String.utf8EncodeChar_ne_nil _

private theorem toUTF8_ofList (s : List Char) : (String.ofList s).toUTF8 = (bytes s).toByteArray := rfl

/-- The bytes of a text are those of its characters. -/
theorem toUTF8_toList (s : String) : s.toUTF8.data.toList = bytes s.toList := by
  rw [← String.ofList_toList (s := s), toUTF8_ofList, List.toList_data_toByteArray, String.toList_ofList]

theorem toUTF8_append_toList (s : String) (b : ByteArray) :
    (s.toUTF8 ++ b).data.toList = bytes s.toList ++ b.data.toList := by
  rw [ByteArray.data_append, Array.toList_append, toUTF8_toList]

/-- A text is decoded from the bytes of its characters. -/
theorem fromUTF8?_bytes (s : List Char) : String.fromUTF8? ⟨(bytes s).toArray⟩ = some (String.ofList s) := by
  have h : (⟨(bytes s).toArray⟩ : ByteArray) = (String.ofList s).toUTF8 := by
    rw [toUTF8_ofList, ← List.data_toByteArray]
  rw [h, fromUTF8?_toUTF8]

/-- A character is stored as one byte, which is its number, or as bytes from `0x80` on. -/
theorem utf8EncodeChar_cases (c : Char) :
    (c.toNat < 0x80 ∧ String.utf8EncodeChar c = [UInt8.ofNat c.toNat]) ∨
      0x80 ≤ c.toNat ∧ ∀ b ∈ String.utf8EncodeChar c, 0x80 ≤ b.toNat := by
  unfold String.utf8EncodeChar
  dsimp only
  by_cases h : c.val.toNat ≤ 127
  · left
    exact ⟨Nat.lt_succ_of_le h, if_pos h⟩
  · right
    refine ⟨Nat.lt_of_not_le h, ?_⟩
    rw [if_neg h]
    repeat' split
    all_goals
      simp only [List.mem_cons, List.not_mem_nil, or_false, forall_eq_or_imp, forall_eq, UInt8.toNat_ofNat']
      omega

/-- A byte below 0x80 is that of a character of the text. -/
theorem mem_of_mem_bytes {s : List Char} {b : UInt8} (hb : b ∈ bytes s) (h : b.toNat < 0x80) :
    Char.ofNat b.toNat ∈ s := by
  obtain ⟨c, hc, hbc⟩ := List.mem_flatMap.1 hb
  rcases utf8EncodeChar_cases c with ⟨hsmall, heq⟩ | ⟨-, hlarge⟩
  · rw [heq, List.mem_singleton] at hbc
    have hnat : b.toNat = c.toNat := by
      rw [hbc, UInt8.toNat_ofNat']
      omega
    rw [hnat, Char.ofNat_toNat]
    exact hc
  · have := hlarge b hbc
    omega

end Text

namespace RecordFile

/-- The bytes of the byte order mark are those of no other character, whatever follows. -/
private theorem eq_mark_of_bytes_eq {c : Char} {bytes rest : List UInt8}
    (h : String.utf8EncodeChar c ++ bytes = 0xEF :: 0xBB :: 0xBF :: rest) : c = '\uFEFF' := by
  have hval : c.val.toNat = 0xFEFF := by
    unfold String.utf8EncodeChar at h
    dsimp only at h
    -- one case for each number of bytes; only three bytes can be those of the mark
    repeat' split at h
    all_goals
      simp only [List.cons_append, List.nil_append, List.cons.injEq, ← UInt8.toNat_inj, UInt8.toNat_ofNat',
        UInt8.reduceToNat] at h
      omega
  exact Char.ext (UInt32.toNat_inj.1 hval)

/-- Behind a text without a byte order mark any bytes may follow. -/
theorem dropMark_bytes_append {s : List Char} (hne : s ≠ []) (h : s.head? ≠ some '\uFEFF') (bytes : List UInt8) :
    dropMark (Text.bytes s ++ bytes) = Text.bytes s ++ bytes := by
  unfold dropMark
  split
  · rename_i rest heq
    obtain ⟨c, t, rfl⟩ := List.exists_cons_of_ne_nil hne
    rw [Text.bytes_cons, List.append_assoc] at heq
    exact absurd (congrArg some (eq_mark_of_bytes_eq heq)) h
  · rfl

/-- The bytes of a text that does not begin with the mark have none to drop. -/
theorem dropMark_bytes {s : List Char} (h : s.head? ≠ some '\uFEFF') : dropMark (Text.bytes s) = Text.bytes s := by
  cases s with
  | nil => rfl
  | cons c t =>
    rw [← List.append_nil (Text.bytes (c :: t))]
    exact dropMark_bytes_append (List.cons_ne_nil c t) h []

/-- The mark is dropped from the bytes of a text that begins with it. -/
theorem dropMark_bytes_mark (s : List Char) : dropMark (Text.bytes ('\uFEFF' :: s)) = Text.bytes s := rfl

end RecordFile

end KeyedFlow
