import KeyedFlow.Menu.Conversation
import KeyedFlow.Proofs.TextBytes
import Mathlib

/-!
# The lines of an input

The lines of a text are what its line feeds divide (`Text.lines`).  The bytes of a text are taken line by line, and each
of these lines reads, once trimmed, as the line of the text (`Line.reads_all_bytes`).
-/

namespace KeyedFlow

/-- The lines of a text.  Behind its last line feed there is a line only if there are characters. -/
def Text.lines (s : List Char) : List (List Char) :=
  let pieces := s.splitOn '\n'
  if pieces.getLast? = some [] then pieces.dropLast else pieces

/-- Whether a line of input is a text that is read, once trimmed, as the given one. -/
def Line.Reads (line : Line) (answer : List Char) : Prop :=
  ∃ s, line = .text s ∧ Text.trim s = answer

namespace Text

@[simp] theorem lines_nil : lines [] = [] := by
  unfold lines
  rw [List.splitOn_nil]
  rfl

private theorem lines_lineFeed (s : List Char) : lines ('\n' :: s) = [] :: lines s := by
  have hne := List.splitOn_ne_nil '\n' s
  have hsplit : ('\n' :: s).splitOn '\n' = [] :: s.splitOn '\n' := by
    rw [List.splitOn_cons_eq_if_modifyHead]
    rfl
  unfold lines
  rw [hsplit]
  dsimp only
  rw [List.getLast?_cons_of_ne_nil hne, List.dropLast_cons_of_ne_nil hne]
  split <;> rfl

private theorem lines_cons {c : Char} (hc : c ≠ '\n') (s : List Char) :
    lines (c :: s) = (c :: (lines s).headD []) :: (lines s).tail := by
  have hsplit : (c :: s).splitOn '\n' = (s.splitOn '\n').modifyHead (List.cons c) := by
    rw [List.splitOn_cons_eq_if_modifyHead]
    exact if_neg (by simpa using hc)
  unfold lines
  rw [hsplit]
  cases hpieces : s.splitOn '\n' with
  | nil => exact absurd hpieces (List.splitOn_ne_nil '\n' s)
  | cons piece more =>
    cases more with
    | nil => cases piece <;> rfl
    | cons next rest =>
      dsimp only [List.modifyHead]
      rw [List.getLast?_cons_cons, List.getLast?_cons_cons]
      split <;> rfl

end Text

namespace Line

/-- Bytes in front of a line, none of which is a line feed, belong to the line. -/
private theorem split_append {bytes : List UInt8} (hne : bytes ≠ []) (hbytes : 0x0A ∉ bytes) (rest : List UInt8) :
    split (bytes ++ rest) = (bytes ++ (split rest).headD []) :: (split rest).tail := by
  induction bytes with
  | nil => exact absurd rfl hne
  | cons b more ih =>
    rw [List.mem_cons, not_or] at hbytes
    rw [List.cons_append, split, if_neg (Ne.symm hbytes.1)]
    cases more with
    | nil =>
      rw [List.nil_append]
      cases split rest <;> rfl
    | cons => rw [ih (List.cons_ne_nil _ _) hbytes.2]; rfl

private theorem lineFeed_not_mem {c : Char} (hc : c ≠ '\n') : 0x0A ∉ String.utf8EncodeChar c := by
  intro hmem
  have hmem : 0x0A ∈ Text.bytes [c] := by rwa [Text.bytes_cons, Text.bytes_nil, List.append_nil]
  exact hc (List.mem_singleton.1 (Text.mem_of_mem_bytes hmem (by decide))).symm

/-- The lines of the bytes of a text are those of the text, perhaps with their line feeds. -/
private theorem split_bytes (s : List Char) :
    ∃ kept : List (List Char), split (Text.bytes s) = kept.map Text.bytes ∧
      List.Forall₂ (fun line t => line = t ∨ line = t ++ ['\n']) kept (Text.lines s) := by
  induction s with
  | nil => exact ⟨[], rfl, .nil⟩
  | cons c s ih =>
    obtain ⟨kept, hsplit, hlines⟩ := ih
    by_cases hc : c = '\n'
    · subst hc
      refine ⟨['\n'] :: kept, ?_, ?_⟩
      · rw [List.map_cons, ← hsplit]
        rfl
      · rw [Text.lines_lineFeed]
        exact .cons (Or.inr rfl) hlines
    · rw [Text.bytes_cons, split_append String.utf8EncodeChar_ne_nil (lineFeed_not_mem hc), hsplit, Text.lines_cons hc]
      generalize Text.lines s = plain at hlines ⊢
      cases hlines with
      | nil =>
        exact ⟨[[c]], rfl, .cons (Or.inl rfl) .nil⟩
      | @cons line t kept rest hline hrest =>
        refine ⟨(c :: line) :: kept, rfl, .cons ?_ hrest⟩
        rcases hline with rfl | rfl
        · exact Or.inl rfl
        · exact Or.inr rfl

private theorem reads_ofBytes {line t : List Char} (h : line = t ∨ line = t ++ ['\n']) :
    (ofBytes (Text.bytes line)).Reads (Text.trim t) := by
  refine ⟨line, ?_, ?_⟩
  · unfold ofBytes
    rw [Text.fromUTF8?_bytes]
    exact congrArg Line.text (String.toList_ofList ..)
  · rcases h with rfl | rfl
    · rfl
    · refine Text.trim_append_right t fun c hc => ?_
      obtain rfl := List.mem_singleton.1 hc
      rfl

/-- The lines of the bytes of a text are read as the trimmed lines of the text. -/
theorem reads_all_bytes (s : List Char) :
    List.Forall₂ Reads (all (Text.bytes s)) ((Text.lines s).map Text.trim) := by
  obtain ⟨kept, hsplit, hlines⟩ := split_bytes s
  unfold all
  rw [hsplit, List.map_map, List.forall₂_map_left_iff, List.forall₂_map_right_iff]
  exact hlines.imp fun _ _ h => reads_ofBytes h

end Line

end KeyedFlow
