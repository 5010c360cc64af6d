import Mathlib
import Templating.Proofs.Grammar.Origins
import Templating.Text.Lines

/-!
The source lines that errors quote. A text is cut at all its line ends to quote one of its lines, but
places are counted by line feeds; both agree as long as there are no line ends of other kinds, so the
right line is quoted only as long as none of them stands before its end.
-/

namespace Templating.Text

/-- A line without the carriage return at its end. -/
def dropReturn (line : List Char) : List Char :=
  if line.getLast? = some '\r' then line.dropLast else line

/-- The characters around a place between the line feeds before and behind it, without a carriage
return at their end. -/
def lineAround (before after : List Char) : List Char :=
  dropReturn ((before.reverse.takeWhile (· != '\n')).reverse ++ after.takeWhile (· != '\n'))

/-- Lines end at line feeds only: of other line ends there are only carriage returns, right before a
line feed or at the end of the text. -/
def FeedsOnly : List Char → Prop
  | [] => True
  | c :: rest =>
    (isLineEnd c → c = '\n' ∨ c = '\r' ∧ (rest = [] ∨ rest.head? = some '\n')) ∧ FeedsOnly rest

instance : DecidablePred FeedsOnly :=
  decidePred
where
  decidePred : (text : List Char) → Decidable (FeedsOnly text)
    | [] => isTrue trivial
    | _ :: rest => have := decidePred rest; inferInstanceAs (Decidable (_ ∧ _))

section

variable {line rest current : List Char}

theorem isLineEnd_feed : isLineEnd '\n' = true := by
  decide

theorem feedsOnly_of_append : FeedsOnly (line ++ '\n' :: rest) → FeedsOnly line ∧ FeedsOnly rest := by
  induction line with
  | nil => exact fun only => ⟨trivial, only.2⟩
  | cons c line ih =>
      rintro ⟨ends, others⟩
      obtain ⟨inside, behind⟩ := ih others
      refine ⟨⟨fun isEnd => (ends isEnd).imp_right fun ⟨isReturn, next⟩ => ⟨isReturn, ?_⟩, inside⟩,
        behind⟩
      cases line with
      | nil => exact .inl rfl
      | cons d line => simpa using next

theorem dropReturn_reverse (open_ : current.head? ≠ some '\r') :
    dropReturn current.reverse = current.reverse := by
  rw [dropReturn, List.getLast?_reverse, if_neg open_]

theorem linesFrom_feed (current rest : List Char) :
    linesFrom current ('\n' :: rest) = current.reverse :: linesFrom [] rest := by
  rw [linesFrom, if_pos isLineEnd_feed]
  simp

theorem linesFrom_plain {c : Char} (plain : isLineEnd c = false) (current rest : List Char) :
    linesFrom current (c :: rest) = linesFrom (c :: current) rest := by
  have unreturned : c ≠ '\r' := by
    rintro rfl
    cases plain
  rw [linesFrom, plain]
  · simp
  · exact fun _ isReturn _ => absurd isReturn unreturned

/-- In a line without line feeds only a carriage return at its end can end it. -/
theorem plain_or_return {c : Char} (only : FeedsOnly (c :: line)) (unfed : '\n' ∉ c :: line) :
    isLineEnd c = false ∨ c = '\r' ∧ line = [] := by
  cases isEnd : isLineEnd c with
  | false => exact .inl rfl
  | true =>
      obtain rfl | ⟨isReturn, ends | feed⟩ := only.1 isEnd
      · exact absurd List.mem_cons_self unfed
      · exact .inr ⟨isReturn, ends⟩
      · exact absurd (List.mem_cons_of_mem _ (List.mem_of_mem_head? feed)) unfed

/-- The lines behind the one that is open. -/
def linesBehind : List Char → List (List Char)
  | [] => []
  | _ :: rest => linesFrom [] rest

/-- An open line that goes on with these characters ends there, at a line feed or at the end of the
text, and other lines follow. -/
theorem linesFrom_line (only : FeedsOnly line) (unfed : '\n' ∉ line)
    (open_ : current.head? ≠ some '\r') (ended : rest = [] ∨ rest.head? = some '\n') :
    (linesFrom current (line ++ rest)).headD [] = dropReturn (current.reverse ++ line) ∧
      (linesFrom current (line ++ rest)).tail = linesBehind rest := by
  induction line generalizing current with
  | nil =>
      rw [List.append_nil, dropReturn_reverse open_, List.nil_append]
      cases rest with
      | nil => cases current <;> simp [linesFrom, linesBehind]
      | cons c rest =>
          cases ended.resolve_left (List.cons_ne_nil _ _)
          simp [linesFrom_feed, linesBehind]
  | cons c line ih =>
      obtain plain | ⟨rfl, rfl⟩ := plain_or_return only unfed
      · have unreturned : (c :: current).head? ≠ some '\r' := by
          rintro ⟨⟩
          cases plain
        obtain ⟨first, others⟩ :=
          ih only.2 (fun member => unfed (List.mem_cons_of_mem _ member)) unreturned
        rw [List.cons_append, linesFrom_plain plain, first, others]
        simp
      · cases rest with
        | nil => simp [linesFrom, dropReturn, isLineEnd, linesBehind]
        | cons c rest =>
            cases ended.resolve_left (List.cons_ne_nil _ _)
            simp [linesFrom, dropReturn, linesBehind]

theorem takeWhile_unfed (text : List Char) : '\n' ∉ text.takeWhile (· != '\n') := by
  intro member
  simpa using List.mem_takeWhile_imp member

/-- Only what is behind the last line feed counts. -/
theorem lineAround_feed (line before after : List Char) :
    lineAround (line ++ '\n' :: before) after = lineAround before after := by
  rw [lineAround, lineAround, List.reverse_append, List.reverse_cons, List.append_assoc,
    List.takeWhile_append]
  split
  case isTrue all =>
    rw [List.singleton_append, List.takeWhile_cons_of_neg (by simp), List.append_nil,
      (List.takeWhile_prefix _).eq_of_length all]
  case isFalse => rfl

theorem lineAround_unfed {before : List Char} (unfed : '\n' ∉ before) (after : List Char) :
    lineAround before after = dropReturn (before ++ after.takeWhile (· != '\n')) := by
  have all : before.reverse.takeWhile (· != '\n') = before.reverse := by
    rw [List.takeWhile_eq_self_iff]
    intro c member
    refine bne_iff_ne.mpr fun feed => unfed ?_
    rw [← feed]
    exact List.mem_reverse.mp member
  rw [lineAround, all, List.reverse_reverse]

/-- The line of a place, by the number of line feeds before it, is what stands around it. -/
theorem linesFrom_around (before after : List Char)
    (only : FeedsOnly (before ++ after.takeWhile (· != '\n'))) :
    (linesFrom [] (before ++ after))[before.count '\n']?.getD [] = lineAround before after := by
  have fresh : ([] : List Char).head? ≠ some '\r' := by simp
  by_cases fed : '\n' ∈ before
  · obtain ⟨line, further, rfl, unfed⟩ := List.eq_append_cons_of_mem fed
    rw [List.append_assoc, List.cons_append] at only
    obtain ⟨inside, behind⟩ := feedsOnly_of_append only
    have others : (linesFrom [] (line ++ '\n' :: (further ++ after))).tail =
        linesBehind ('\n' :: (further ++ after)) :=
      (linesFrom_line inside unfed fresh (.inr rfl)).2
    have count : (line ++ '\n' :: further).count '\n' = further.count '\n' + 1 := by
      rw [List.count_append, List.count_eq_zero.mpr unfed, List.count_cons_self, Nat.zero_add]
    rw [lineAround_feed, ← linesFrom_around further after behind, count, List.append_assoc,
      List.cons_append, ← List.getElem?_tail, others]
    rfl
  · have ended : after.dropWhile (· != '\n') = [] ∨
        (after.dropWhile (· != '\n')).head? = some '\n' := by
      cases left : after.dropWhile (· != '\n') with
      | nil => exact .inl rfl
      | cons c rest =>
          have head := List.head?_dropWhile_not (· != '\n') after
          rw [left] at head
          simpa using head
    have unfed : '\n' ∉ before ++ after.takeWhile (· != '\n') := by
      rw [List.mem_append]
      exact fun member => member.elim fed (takeWhile_unfed after)
    have first : (linesFrom [] (before ++ after)).headD [] =
        dropReturn (before ++ after.takeWhile (· != '\n')) := by
      have joined := (linesFrom_line only unfed fresh ended).1
      rwa [List.append_assoc, List.takeWhile_append_dropWhile] at joined
    rw [lineAround_unfed fed, List.count_eq_zero.mpr fed, ← List.head?_eq_getElem?]
    simpa [List.headD_eq_head?_getD] using first
termination_by before.length
decreasing_by
  subst_vars
  rw [List.length_append, List.length_cons]
  omega

end

/-- The line of a text with this number is the one around a place with as many line feeds before. -/
theorem line_around {source : String} {before after : List Char}
    (split : source.toList = before ++ after)
    (only : FeedsOnly (before ++ after.takeWhile (· != '\n'))) :
    line (some source) ((1 + before.count '\n' : Nat) : Int) = String.ofList (lineAround before after) := by
  have number : (((1 + before.count '\n' : Nat) : Int) - 1).toNat = before.count '\n' := by omega
  have positive : ¬((1 + before.count '\n' : Nat) : Int) < 1 := by omega
  rw [line, if_neg positive, number, ← linesFrom_around before after only]
  simp only [Option.map_some, Option.getD_some, lines, split, List.getElem?_map]
  cases (linesFrom [] (before ++ after))[before.count '\n']? <;> rfl

end Templating.Text

namespace Templating.Template

open Text

/-- An error of a text that does not compile has a place in the text, and quotes the line of that
number. It is the line around the place if lines end at line feeds only, up to the end of this one. -/
theorem compile_snippet {delimiters : Delimiters} {limit : Int} {name source : String}
    {fault : Fault} (fails : compile delimiters limit name source = .error fault) :
    ∃ before after, source.toList = before ++ after ∧
      fault.position = some ⟨name, .behind before⟩ ∧
      fault.snippet = line (some source) ((1 + before.count '\n' : Nat) : Int) ∧
      (FeedsOnly (before ++ after.takeWhile (· != '\n')) →
        fault.snippet = String.ofList (lineAround before after)) := by
  obtain ⟨cause, _, rfl, before, after, split, rfl⟩ := compile_blames fails
  exact ⟨before, after, split, rfl, rfl, line_around split⟩

/-- An operator without operands, on the second of three lines. -/
theorem compile_snippet_operator : ∃ fault,
    compile {} defaultDepth "" "a\r\nb \x7b\x7b * \x7d\x7d\r\nc" = .error fault ∧
      fault.snippet = "b \x7b\x7b * \x7d\x7d" ∧
      ∃ before after, "a\r\nb \x7b\x7b * \x7d\x7d\r\nc".toList = before ++ after ∧
        fault.position = some ⟨"", .behind before⟩ ∧
        (FeedsOnly (before ++ after.takeWhile (· != '\n')) →
          fault.snippet = String.ofList (lineAround before after)) := by
  have fails : ∃ fault, compile {} defaultDepth "" "a\r\nb \x7b\x7b * \x7d\x7d\r\nc" = .error fault ∧
      fault.snippet = "b \x7b\x7b * \x7d\x7d" := ⟨_, by cbv, by cbv⟩
  obtain ⟨fault, run, snippet⟩ := fails
  obtain ⟨before, after, split, position, _, quotes⟩ := compile_snippet run
  exact ⟨fault, run, snippet, before, after, split, position, quotes⟩

/-- Behind a form feed the line before the right one is quoted. -/
theorem compile_snippet_formFeed : ∃ fault before after,
    compile {} defaultDepth "" "one\x0ctwo\n\x7b\x7b \x7d\x7d" = .error fault ∧
      "one\x0ctwo\n\x7b\x7b \x7d\x7d".toList = before ++ after ∧
      fault.position = some ⟨"", .behind before⟩ ∧ fault.snippet = "two" ∧
      String.ofList (lineAround before after) = "\x7b\x7b \x7d\x7d" :=
  ⟨_, "one\x0ctwo\n\x7b\x7b ".toList, "\x7d\x7d".toList, by cbv, by decide, by cbv, by cbv,
    by decide⟩

end Templating.Template
