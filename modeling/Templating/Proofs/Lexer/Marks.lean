import Templating.Proofs.Lexer.Places

/-!
Tokens and errors stand in the text: each has the mark of a place there, whatever the delimiters.
-/

namespace Templating

/-- The mark of a place in the text. -/
def Mark.IsIn (source : List Char) (mark : Mark) : Prop :=
  ∃ before after, source = before ++ after ∧ mark = .behind before

namespace Lexer

variable {source : List Char}

/-- The reader stands somewhere in the text. -/
def Reader.Stands (source : List Char) (reader : Reader) : Prop :=
  ∃ i, reader.At source i

namespace Reader.Stands

variable {reader after : Reader}

theorem mark (stands : reader.Stands source) : reader.mark.IsIn source := by
  obtain ⟨i, located⟩ := stands
  exact ⟨source.take i, source.drop i, (List.take_append_drop i source).symm, located.mark⟩

theorem passes {text : List Char} (stands : reader.Stands source)
    (passed : reader.Passes text after) : after.Stands source := by
  obtain ⟨i, located⟩ := stands
  exact ⟨_, (located.passes passed).1⟩

theorem skip (stands : reader.Stands source) (count : Nat) : (reader.skip count).Stands source :=
  stands.passes (reader.passes_skip count)

theorem skipBlanks (stands : reader.Stands source) : reader.skipBlanks.Stands source :=
  stands.passes reader.passes_skipBlanks

theorem skipMarker (stands : reader.Stands source) : reader.skipMarker.Stands source :=
  stands.passes reader.passes_marker.choose_spec

end Reader.Stands

/-- What is read satisfies the condition, and what is blamed if reading stops stands in the text. -/
def Within (source : List Char) {α : Type} (post : α → Prop) : Except Stop α → Prop
  | .ok value => post value
  | .error stop => stop.2.IsIn source

/-- The tokens stand in the text, as the reader behind them does. -/
def Stand (source : List Char) (read : List Token × Bool × Reader) : Prop :=
  (∀ token ∈ read.1, token.mark.IsIn source) ∧ read.2.2.Stands source

namespace Within

variable {α β : Type} {outcome : Except Stop α}

theorem of_ok {post : α → Prop} {value : α} (within : Within source post outcome)
    (run : outcome = .ok value) : post value := by
  rw [run] at within
  exact within

theorem of_error {post : α → Prop} {stop : Stop} (within : Within source post outcome)
    (run : outcome = .error stop) : stop.2.IsIn source := by
  rw [run] at within
  exact within

theorem bind {first : α → Prop} {post : β → Prop} {onwards : α → Except Stop β}
    (within : Within source first outcome)
    (continues : ∀ value, first value → Within source post (onwards value)) :
    Within source post (outcome >>= onwards) := by
  cases run : outcome with
  | error stop => exact within.of_error run
  | ok value => exact continues value (within.of_ok run)

end Within

/-- An unknown escape is blamed on its backslash. -/
theorem stringBody_badEscape {quote escaped : Char} {mark blamed : Mark} {text : List Char}
    (stopped : stringBody quote mark text = .error (.badEscape escaped blamed)) :
    ∃ passed after, Reader.Passes ⟨text, mark⟩ passed after ∧ after.mark = blamed := by
  fun_induction stringBody quote mark text with
  | case1 => cases stopped
  | case2 => cases stopped
  | case3 => cases stopped
  | case4 mark unknown rest =>
      cases stopped
      exact ⟨[], _, Reader.passes_nil _, rfl⟩
  | case5 mark skipped rest replacement known different ih =>
      obtain ⟨passed, after, passes, same⟩ := ih (Outcome.map_eq_error.mp stopped)
      exact ⟨['\\', skipped] ++ passed, after, Reader.Passes.trans ⟨rfl, rfl⟩ passes, same⟩
  | case6 mark c rest different plain ih =>
      obtain ⟨passed, after, passes, same⟩ := ih (Outcome.map_eq_error.mp stopped)
      exact ⟨[c] ++ passed, after, Reader.Passes.trans ⟨rfl, rfl⟩ passes, same⟩

variable {tag : TagEnd} {reader : Reader}

theorem stringToken_within (started : tag.start.IsIn source) (stands : reader.Stands source)
    {quote : Char} (starts : reader.rest.head? = some quote) :
    Within source (fun read => read.1.mark.IsIn source) (stringToken tag quote reader) := by
  unfold stringToken
  split
  case h_1 => exact stands.mark
  case h_2 =>
    unfold unterminatedString
    split
    · exact stands.mark
    · exact started
  case h_3 escaped mark stopped =>
    obtain ⟨passed, after, passes, same⟩ := stringBody_badEscape stopped
    have first : reader.Passes [quote] ⟨reader.rest.drop 1, reader.mark.step quote⟩ :=
      ⟨by simpa using (List.cons_head?_tail starts).symm, rfl⟩
    exact same ▸ (stands.passes (first.trans passes)).mark

theorem tagToken_within (started : tag.start.IsIn source) (stands : reader.Stands source) :
    Within source (fun read => read.1.mark.IsIn source ∧ read.2.Stands source)
      (tagToken tag reader) := by
  have marked : Within source (fun read => read.1.mark.IsIn source) (tagToken tag reader) := by
    unfold tagToken
    split
    case h_1 => exact started
    case h_2 c rest starts =>
      split
      · exact stringToken_within started stands (by rw [starts]; rfl)
      · split
        · exact stands.mark
        · split
          · exact stands.mark
          · split
            · exact stands.mark
            · exact stands.mark
  cases read : tagToken tag reader with
  | error stop => exact marked.of_error read
  | ok result =>
      obtain ⟨passed, -, passes⟩ := tagToken_passes read
      exact ⟨marked.of_ok read, stands.passes passes⟩

theorem tagTokens_within (started : tag.start.IsIn source) (stands : reader.Stands source)
    (budget : Nat) : Within source (Stand source) (tagTokens tag budget reader) := by
  induction budget generalizing reader with
  | zero => exact started
  | succ budget ih =>
      have inside := stands.skipBlanks
      rw [tagTokens]
      split
      · exact started
      · split
        · exact ⟨List.forall_mem_singleton.mpr (inside.skip 1).mark, (inside.skip 1).skip _⟩
        · split
          · exact ⟨List.forall_mem_singleton.mpr inside.mark, inside.skip _⟩
          · refine (tagToken_within started inside).bind fun first found => ?_
            refine (ih found.2).bind fun others stand => ?_
            exact ⟨List.forall_mem_cons.mpr ⟨found.1, stand.1⟩, stand.2⟩

theorem tag_within {openKind closeKind : TokenKind} {opener close : List Char} {budget : Nat}
    (stands : reader.Stands source) :
    Within source (Stand source) (Lexer.tag openKind closeKind opener close budget reader) :=
  (tagTokens_within stands.mark (stands.skip _).skipMarker budget).bind fun _ stand =>
    ⟨List.forall_mem_cons.mpr ⟨stands.mark, stand.1⟩, stand.2⟩

variable {delimiters : Delimiters}

theorem skipComment_within (stands : reader.Stands source) :
    Within source (fun read => read.2.Stands source) (skipComment delimiters reader) := by
  dsimp only [skipComment]
  split
  · exact stands.mark
  · exact (stands.skip _).skipMarker.skip _

theorem tagOrComment_within {opener : List Char} {budget : Nat} (stands : reader.Stands source) :
    Within source (Stand source) (tagOrComment delimiters opener budget reader) := by
  unfold tagOrComment
  split
  · have within : Within source (fun read => read.2.Stands source) (skipComment delimiters reader) :=
      skipComment_within stands
    cases read : skipComment delimiters reader with
    | error stop => exact within.of_error read
    | ok result => exact ⟨List.forall_mem_nil _, within.of_ok read⟩
  · split
    · exact tag_within stands
    · exact tag_within stands

theorem textToken_stands (openers : List (List Char)) (trims : Bool)
    (stands : reader.Stands source) :
    (∀ token ∈ (textToken openers trims reader).1, token.mark.IsIn source) ∧
      (textToken openers trims reader).2.Stands source := by
  obtain ⟨_, passes⟩ := textToken_passes openers trims reader
  obtain ⟨_, trimmed⟩ := reader.passes_textStart trims
  refine ⟨?_, stands.passes passes⟩
  dsimp only [textToken]
  split
  · exact List.forall_mem_nil _
  · exact List.forall_mem_singleton.mpr (stands.passes trimmed).mark

/-- The end of input is a token of its own, so there is always one. -/
theorem tokensFrom_within {openers : List (List Char)} {budget : Nat} {trims : Bool}
    (stands : reader.Stands source) :
    Within source (fun tokens => tokens ≠ [] ∧ ∀ token ∈ tokens, token.mark.IsIn source)
      (tokensFrom delimiters openers budget trims reader) := by
  induction budget generalizing trims reader with
  | zero => exact ⟨List.cons_ne_nil _ _, List.forall_mem_singleton.mpr stands.mark⟩
  | succ budget ih =>
      obtain ⟨marked, behind⟩ := textToken_stands openers trims stands
      simp only [tokensFrom]
      split
      · exact ⟨List.append_ne_nil_of_right_ne_nil _ (List.cons_ne_nil _ _),
          List.forall_mem_append.mpr ⟨marked, List.forall_mem_singleton.mpr behind.mark⟩⟩
      · refine (tagOrComment_within behind).bind fun read stand => ?_
        obtain ⟨tokens, _, _⟩ := read
        refine (ih stand.2).bind fun rest found => ?_
        exact ⟨List.append_ne_nil_of_right_ne_nil _ found.1, List.forall_mem_append.mpr
          ⟨List.forall_mem_append.mpr ⟨marked, stand.1⟩, found.2⟩⟩

end Lexer

/-- Every token of a source stands in it, and so does what is blamed if there are none. -/
theorem Lexer.tokens_within (delimiters : Delimiters) (source : String) :
    Within source.toList (fun tokens => tokens ≠ [] ∧ ∀ token ∈ tokens, token.mark.IsIn source.toList)
      (tokens delimiters source) :=
  tokensFrom_within ⟨0, .start source⟩

end Templating
