import Mathlib.Data.List.Induction
import Templating.Proofs.Lexer.Progress

/-!
Where a reader stands in the whole text: the mark of a place says how many bytes, lines and
characters of the line stand before it.
-/

namespace Templating

/-- The place behind a text: its bytes, its line feeds and the characters since the last of them. -/
def Mark.behind (text : List Char) : Mark where
  line := 1 + text.count '\n'
  column := 1 + (text.reverse.takeWhile (· != '\n')).length
  byteOffset := (String.ofList text).utf8ByteSize

theorem Mark.behind_concat (text : List Char) (c : Char) :
    behind (text ++ [c]) = (behind text).step c := by
  have bytes : (String.ofList (text ++ [c])).utf8ByteSize =
      (String.ofList text).utf8ByteSize + c.utf8Size := by
    rw [String.ofList_append, String.utf8ByteSize_append, ← String.singleton_eq_ofList,
      String.utf8ByteSize_singleton]
  unfold behind step
  rw [bytes, List.reverse_concat, List.count_append]
  by_cases feed : c = '\n'
  · simp [feed]
    omega
  · have other : List.count '\n' [c] = 0 := by simp [feed]
    simp [feed]
    omega

theorem Mark.past_start (text : List Char) : past {} text = behind text := by
  induction text using List.reverseRecOn with
  | nil => rfl
  | append_singleton text c ih =>
      rw [behind_concat, ← ih, past, past, List.foldl_append]
      rfl

namespace Lexer

variable {source : List Char} {i j k : Nat}

theorem extract_append_extract (before : i ≤ j) (after : j ≤ k) :
    source.extract i j ++ source.extract j k = source.extract i k := by
  simp only [List.extract_eq_take_drop]
  obtain ⟨m, rfl⟩ := Nat.exists_eq_add_of_le before
  obtain ⟨n, rfl⟩ := Nat.exists_eq_add_of_le after
  rw [Nat.add_sub_cancel_left, Nat.add_sub_cancel_left, Nat.add_assoc, Nat.add_sub_cancel_left,
    List.take_add, List.drop_drop]

/-- So many characters of the source have been read, and the others are left. -/
structure Reader.At (source : List Char) (i : Nat) (reader : Reader) : Prop where
  rest : reader.rest = source.drop i
  within : i ≤ source.length
  mark : reader.mark = .behind (source.take i)

namespace Reader.At

theorem start (source : String) : (ofSource source).At source.toList 0 :=
  ⟨rfl, Nat.zero_le _, (Mark.past_start []).symm ▸ rfl⟩

variable {reader after : Reader} {text : List Char}

theorem passes (located : reader.At source i) (passed : reader.Passes text after) :
    after.At source (i + text.length) ∧ source.extract i (i + text.length) = text := by
  have split : source.drop i = text ++ after.rest := located.rest.symm.trans passed.1
  have taken : source.extract i (i + text.length) = text := by
    rw [List.extract_eq_take_drop, Nat.add_sub_cancel_left, split, List.take_left]
  have lengths := congrArg List.length split
  rw [List.length_drop, List.length_append] at lengths
  have within := located.within
  refine ⟨⟨?_, by omega, ?_⟩, taken⟩
  · rw [← List.drop_drop, split, List.drop_left]
  · rw [passed.2, located.mark, ← Mark.past_start, ← Mark.past_start, Mark.past, Mark.past, Mark.past,
      ← List.foldl_append, List.take_add, split, List.take_left]

/-- The whole text has been read. -/
theorem eq_length (located : reader.At source i) (empty : reader.rest = []) :
    i = source.length := by
  have lengths := congrArg List.length (located.rest.symm.trans empty)
  rw [List.length_drop, List.length_nil] at lengths
  have within := located.within
  omega

end Reader.At

end Lexer

end Templating
