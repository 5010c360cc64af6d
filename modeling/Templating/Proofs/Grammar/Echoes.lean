import Templating.Proofs.Grammar.Accepts
import Templating.Proofs.Lexer.Displaced

/-!
Two runs over the same tokens at other places, of which one may meet a text in two pieces. Only bodies
pass texts, so every other parser takes the same steps in both runs.
-/

namespace Templating

open Outcome (Alike)

/-- Tokens of one kind that say the same, unless they are texts. -/
structure Token.Similar (one two : Token) : Prop where
  kind : one.kind = two.kind
  value : one.kind ≠ .text → one.value = two.value

namespace Token.Similar

variable {one two : Token}

theorem of_lexeme (same : one.lexeme = two.lexeme) : one.Similar two :=
  ⟨congrArg Prod.fst same, fun _ => congrArg Prod.snd same⟩

theorem lexeme (similar : one.Similar two) (noText : one.kind ≠ .text) : one.lexeme = two.lexeme :=
  Prod.ext similar.kind (similar.value noText)

theorem isKeyword (similar : one.Similar two) (word : String) :
    one.isKeyword word = two.isKeyword word := by
  unfold Token.isKeyword
  rw [← similar.kind]
  by_cases keyword : one.kind = .keyword
  · rw [similar.value (by simp [keyword])]
  · rw [beq_false_of_ne keyword, Bool.false_and, Bool.false_and]

theorem isOperator (similar : one.Similar two) (symbol : String) :
    one.isOperator symbol = two.isOperator symbol := by
  unfold Token.isOperator
  rw [← similar.kind]
  by_cases operator : one.kind = .operator
  · rw [similar.value (by simp [operator])]
  · rw [beq_false_of_ne operator, Bool.false_and, Bool.false_and]

end Token.Similar

/-- Both lists spell the same up to the end of input; a text of the first may stand in two pieces in
the second. -/
inductive Echoes : List Token → List Token → Prop where
  | ends {one two : Token} (kind : one.kind = .endOfInput) (same : one.lexeme = two.lexeme) :
      Echoes [one] [two]
  | token {one two : Token} {ones twos : List Token} (inside : one.kind ≠ .endOfInput)
      (same : one.lexeme = two.lexeme) (rest : Echoes ones twos) : Echoes (one :: ones) (two :: twos)
  | seam {whole first second : Token} {ones twos : List Token} (wholly : whole.kind = .text)
      (firstly : first.kind = .text) (secondly : second.kind = .text)
      (joined : whole.value = first.value ++ second.value) (rest : Echoes ones twos) :
      Echoes (whole :: ones) (first :: second :: twos)

theorem Echoes.similar {ones twos : List Token} (echoes : Echoes ones twos) :
    ∃ one others two rest, ones = one :: others ∧ twos = two :: rest ∧ one.Similar two := by
  cases echoes with
  | ends _ same => exact ⟨_, _, _, _, rfl, rfl, .of_lexeme same⟩
  | token _ same => exact ⟨_, _, _, _, rfl, rfl, .of_lexeme same⟩
  | seam wholly firstly =>
      exact ⟨_, _, _, _, rfl, rfl, wholly.trans firstly.symm, fun other => absurd wholly other⟩

/-- Tokens of this kind are passed by other parsers than that of bodies. -/
structure TokenKind.IsPassed (kind : TokenKind) : Prop where
  noText : kind ≠ .text
  noEnd : kind ≠ .endOfInput

instance : DecidablePred TokenKind.IsPassed := fun kind =>
  decidable_of_iff (kind ≠ .text ∧ kind ≠ .endOfInput)
    ⟨fun passed => ⟨passed.1, passed.2⟩, fun passed => ⟨passed.noText, passed.noEnd⟩⟩

theorem Echoes.pass {one two : Token} {ones twos : List Token}
    (echoes : Echoes (one :: ones) (two :: twos)) (passed : one.kind.IsPassed) : Echoes ones twos := by
  cases echoes with
  | ends kind => exact absurd kind passed.noEnd
  | token _ _ rest => exact rest
  | seam wholly => exact absurd wholly passed.noText

theorem Cursor.of_starts {cursor : Cursor} {token : Token} {coming : List Token}
    (starts : token :: coming <+: cursor.rest) :
    cursor.current = token ∧
      (token.kind ≠ .endOfInput → coming <+: cursor.advance.rest) := by
  obtain ⟨rest, same⟩ := starts
  have here : cursor.current = token := by simp [Cursor.current, ← same]
  refine ⟨here, fun noEnd => ⟨rest, ?_⟩⟩
  simp [Cursor.advance, here, noEnd, ← same]

/-- Two cursors before such tokens, with blocks of the same names open. -/
structure Cursor.Mirrored (one two : Cursor) : Prop where
  rest : Echoes one.rest two.rest
  opened : one.opened = two.opened
  within : one.rest.length ≤ one.size
  withinToo : two.rest.length ≤ two.size

namespace Cursor.Mirrored

variable {one two : Cursor}

theorem current (mirrored : one.Mirrored two) :
    one.current.Similar two.current ∧ [one.current] <+: one.rest ∧ [two.current] <+: two.rest := by
  obtain ⟨first, _, second, _, same, sameToo, similar⟩ := mirrored.rest.similar
  simpa [Cursor.current, same, sameToo] using similar

theorem next (mirrored : one.Mirrored two) (passed : one.current.kind.IsPassed) :
    one.next.Similar two.next ∧ [one.current, one.next] <+: one.rest ∧
      [two.current, two.next] <+: two.rest := by
  obtain ⟨first, ones, second, twos, same, sameToo, _⟩ := mirrored.rest.similar
  have echoes := mirrored.rest
  rw [same, sameToo] at echoes
  obtain ⟨_, _, _, _, rfl, rfl, similar⟩ :=
    (echoes.pass (by simpa [Cursor.current, same] using passed)).similar
  simpa [Cursor.current, Cursor.next, same, sameToo] using similar

theorem advance (mirrored : one.Mirrored two) (passed : one.current.kind.IsPassed) :
    one.advance.Mirrored two.advance ∧ one.advance.rest.length + 1 = one.rest.length ∧
      two.advance.rest.length + 1 = two.rest.length := by
  obtain ⟨first, ones, second, twos, same, sameToo, _⟩ := mirrored.rest.similar
  have noEnd : two.current.kind ≠ .endOfInput := mirrored.current.1.kind ▸ passed.noEnd
  obtain ⟨rest, opened, within, withinToo⟩ := mirrored
  rw [same, sameToo] at rest
  rw [same] at within
  rw [sameToo] at withinToo
  simp only [Cursor.advance, if_neg passed.noEnd, if_neg noEnd, same, sameToo]
  exact ⟨⟨rest.pass (by simpa [Cursor.current, same] using passed), opened,
    Nat.le_of_succ_le within, Nat.le_of_succ_le withinToo⟩, rfl, rfl⟩

end Cursor.Mirrored

namespace Grammar

open Templating.Parser

variable {α β : Type}

/-- Both runs came from these cursors to such values, over so many tokens at least. -/
structure Reached (least : Nat) (post : α → α → Prop) (one two : Cursor) (read again : α × Cursor) :
    Prop where
  values : post read.1 again.1
  mirrored : read.2.Mirrored again.2
  onward : read.2.rest.length + least ≤ one.rest.length
  onwardToo : again.2.rest.length + least ≤ two.rest.length

theorem Reached.earlier {post : α → α → Prop} {one two first second : Cursor}
    {read again : α × Cursor} {least total : Nat} (reached : Reached least post one two read again)
    (extra : Nat) (onward : one.rest.length + extra ≤ first.rest.length)
    (onwardToo : two.rest.length + extra ≤ second.rest.length) (enough : total ≤ least + extra) :
    Reached total post first second read again := by
  obtain ⟨values, after, further, furtherToo⟩ := reached
  exact ⟨values, after, by omega, by omega⟩

/-- From mirrored cursors with at most so many tokens left, both parsers come to such values, over so
many tokens at least, or both refuse. These tokens are known to come first. -/
def Mirrors (coming : List (Token × Token)) (bound limit least : Nat) (first second : Parser α)
    (post : α → α → Prop) : Prop :=
  ∀ ⦃one two : Cursor⦄, one.Mirrored two → one.rest.length ≤ bound → two.rest.length ≤ limit →
    coming.map Prod.fst <+: one.rest → coming.map Prod.snd <+: two.rest →
      Alike (fun _ _ => True) (Reached least post one two) (first one) (second two)

/-- The parser does so however many tokens are left. -/
abbrev Faithful (parser : Parser α) (post : α → α → Prop) : Prop :=
  ∀ bound limit, Mirrors [] bound limit 0 parser parser post

namespace Mirrors

variable {coming : List (Token × Token)} {bound limit least : Nat} {first second : Parser α}
  {onwards others : α → Parser β} {post : α → α → Prop} {goal : β → β → Prop} {token other : Token}

theorem pure {value again : α} (holds : post value again) :
    Mirrors coming bound limit 0 (pure value) (pure again) post :=
  fun _ _ mirrored _ _ _ _ => .ok ⟨holds, mirrored, Nat.le_refl _, Nat.le_refl _⟩

theorem refuse {cause again : GrammarCause} :
    Mirrors coming bound limit least (Parser.refuse cause token) (Parser.refuse again other) post :=
  fun _ _ _ _ _ _ _ => .error trivial

theorem unexpected {expected again : Option String} :
    Mirrors coming bound limit least (Parser.unexpected token expected)
      (Parser.unexpected other again) post :=
  refuse

theorem refuseBind {cause again : GrammarCause} :
    Mirrors coming bound limit least ((Parser.refuse cause token : Parser α) >>= onwards)
      ((Parser.refuse again other : Parser α) >>= others) goal :=
  fun _ _ _ _ _ _ _ => .error trivial

theorem anywhere (mirrors : Mirrors [] bound limit least first second post) :
    Mirrors coming bound limit least first second post :=
  fun _ _ mirrored few fewToo _ _ => mirrors mirrored few fewToo (by simp) (by simp)

theorem within {more further : Nat} (mirrors : Mirrors coming more further least first second post)
    (fewer : bound ≤ more) (fewerToo : limit ≤ further) :
    Mirrors coming bound limit least first second post :=
  fun _ _ mirrored few fewToo =>
    mirrors mirrored (Nat.le_trans few fewer) (Nat.le_trans fewToo fewerToo)

theorem atLeast {fewer : Nat} (mirrors : Mirrors coming bound limit least first second post)
    (still : fewer ≤ least) : Mirrors coming bound limit fewer first second post := by
  intro one two mirrored few fewToo starts startsToo
  refine (mirrors mirrored few fewToo starts startsToo).mono fun _ _ reached => ?_
  exact reached.earlier 0 (Nat.le_refl _) (Nat.le_refl _) still

theorem bind {total : Nat} (mirrors : Mirrors coming bound limit least first second post)
    (continues : ∀ value again, post value again →
      Mirrors [] (bound - least) (limit - least) (total - least) (onwards value) (others again) goal) :
    Mirrors coming bound limit total (first >>= onwards) (second >>= others) goal := by
  intro one two mirrored few fewToo starts startsToo
  rw [bind_apply, bind_apply]
  refine (mirrors mirrored few fewToo starts startsToo).bind fun read again reached => ?_
  obtain ⟨values, after, onward, onwardToo⟩ := reached
  have further := continues _ _ values after (by omega) (by omega) (by simp) (by simp)
  exact further.mono fun _ _ last => last.earlier least onward onwardToo (by omega)

theorem current {onwards others : Token → Parser β}
    (continues : ∀ one two, one.Similar two →
      Mirrors [(one, two)] bound limit least (onwards one) (others two) goal) :
    Mirrors coming bound limit least (Parser.current >>= onwards) (Parser.current >>= others)
      goal := by
  intro one two mirrored few fewToo _ _
  obtain ⟨similar, starts, startsToo⟩ := mirrored.current
  exact continues one.current two.current similar mirrored few fewToo starts startsToo

theorem known {onwards others : Token → Parser β}
    (continues : Mirrors ((token, other) :: coming) bound limit least (onwards token) (others other)
      goal) :
    Mirrors ((token, other) :: coming) bound limit least (Parser.current >>= onwards)
      (Parser.current >>= others) goal := by
  intro one two mirrored few fewToo starts startsToo
  obtain ⟨rfl, _⟩ := Cursor.of_starts starts
  obtain ⟨rfl, _⟩ := Cursor.of_starts startsToo
  exact continues mirrored few fewToo starts startsToo

theorem next {onwards others : Token → Parser β} (passed : token.kind.IsPassed)
    (continues : ∀ one two, one.Similar two →
      Mirrors [(token, other), (one, two)] bound limit least (onwards one) (others two) goal) :
    Mirrors ((token, other) :: coming) bound limit least (Parser.next >>= onwards)
      (Parser.next >>= others) goal := by
  intro one two mirrored few fewToo starts startsToo
  obtain ⟨rfl, _⟩ := Cursor.of_starts starts
  obtain ⟨rfl, _⟩ := Cursor.of_starts startsToo
  obtain ⟨similar, starts, startsToo⟩ := mirrored.next passed
  exact continues one.next two.next similar mirrored few fewToo starts startsToo

/-- Behind a text or the end of input the runs may see anything. -/
theorem nextAny {onwards others : Token → Parser β}
    (continues : ∀ one two, Mirrors coming bound limit least (onwards one) (others two) goal) :
    Mirrors coming bound limit least (Parser.next >>= onwards) (Parser.next >>= others) goal :=
  fun _ _ mirrored few fewToo => continues _ _ mirrored few fewToo

theorem advance {onwards others : Token → Parser β} (passed : token.kind.IsPassed)
    (continues : Mirrors coming (bound - 1) (limit - 1) (least - 1) (onwards token) (others other)
      goal) :
    Mirrors ((token, other) :: coming) bound limit least (Parser.advance >>= onwards)
      (Parser.advance >>= others) goal := by
  intro one two mirrored few fewToo starts startsToo
  obtain ⟨rfl, behind⟩ := Cursor.of_starts starts
  obtain ⟨rfl, behindToo⟩ := Cursor.of_starts startsToo
  obtain ⟨advanced, less, lessToo⟩ := mirrored.advance passed
  have further := continues advanced (by omega) (by omega) (behind passed.noEnd)
    (behindToo (mirrored.current.1.kind ▸ passed.noEnd))
  exact further.mono fun _ _ last =>
    last.earlier 1 (Nat.le_of_eq less) (Nat.le_of_eq lessToo) (by omega)

theorem pass (passed : token.kind.IsPassed) (similar : token.Similar other) :
    Mirrors ((token, other) :: coming) bound limit 1 Parser.advance Parser.advance Token.Similar := by
  rw [← bind_pure Parser.advance]
  exact advance passed (pure similar)

theorem expect {kind : TokenKind} {what again : String} {onwards others : Token → Parser β}
    (passed : kind.IsPassed)
    (continues : ∀ one two, one.Similar two → one.kind = kind →
      Mirrors [] (bound - 1) (limit - 1) (least - 1) (onwards one) (others two) goal) :
    Mirrors coming bound limit least (Parser.expect kind what >>= onwards)
      (Parser.expect kind again >>= others) goal := by
  simp only [Parser.expect, bind_assoc]
  refine current fun one two similar => ?_
  rw [← similar.kind]
  split
  case isTrue same =>
    exact advance (same ▸ passed) (continues one two similar same)
  case isFalse => exact refuseBind

theorem accept {kind : TokenKind} {onwards others : Bool → Parser β}
    (passed : kind.IsPassed)
    (yes : Mirrors [] (bound - 1) (limit - 1) (least - 1) (onwards true) (others true) goal)
    (no : Mirrors [] bound limit least (onwards false) (others false) goal) :
    Mirrors coming bound limit least (Parser.accept kind >>= onwards) (Parser.accept kind >>= others)
      goal := by
  simp only [Parser.accept, bind_assoc]
  refine current fun one two similar => ?_
  rw [← similar.kind]
  split
  case isTrue same =>
    simp only [bind_assoc, pure_bind]
    exact advance (same ▸ passed) yes
  case isFalse => exact no.anywhere

/-- The turns of a loop are at least as many as the tokens left, in both runs. -/
theorem size {onwards others : Nat → Parser β}
    (continues : ∀ turns again,
      Mirrors coming (min bound turns) (min limit again) least (onwards turns) (others again) goal) :
    Mirrors coming bound limit least (Parser.size >>= onwards) (Parser.size >>= others) goal :=
  fun one two mirrored few fewToo => continues one.size two.size mirrored
    (Nat.le_min.mpr ⟨few, mirrored.within⟩) (Nat.le_min.mpr ⟨fewToo, mirrored.withinToo⟩)

theorem turns {onwards others : Nat → Parser β}
    (continues : ∀ turns again, Mirrors coming turns again least (onwards turns) (others again) goal) :
    Mirrors coming bound limit least (Parser.size >>= onwards) (Parser.size >>= others) goal :=
  size fun turns again =>
    (continues turns again).within (Nat.min_le_right _ _) (Nat.min_le_right _ _)

theorem position {onwards others : Option Position → Parser β}
    (continues : ∀ place again, Mirrors coming bound limit least (onwards place) (others again) goal) :
    Mirrors coming bound limit least (positionOf token >>= onwards) (positionOf other >>= others)
      goal :=
  fun _ _ mirrored few fewToo => continues _ _ mirrored few fewToo

/-- A text is passed by the parsers themselves, as it may stand in two pieces in the second run. -/
theorem byText
    (texts : ∀ {one two : Cursor}, one.Mirrored two → one.rest.length ≤ bound →
      two.rest.length ≤ limit → one.current.kind = .text →
      Alike (fun _ _ => True) (Reached least post one two) (first one) (second two))
    (apart : ∀ one two, one.Similar two → one.kind ≠ .text →
      Mirrors [(one, two)] bound limit least first second post) :
    Mirrors coming bound limit least first second post := by
  intro one two mirrored few fewToo _ _
  by_cases text : one.current.kind = .text
  · exact texts mirrored few fewToo text
  · obtain ⟨similar, starts, startsToo⟩ := mirrored.current
    exact apart one.current two.current similar text mirrored few fewToo starts startsToo

/-- There is always a token left, the end of input. -/
theorem exhausted (spent : bound = 0 ∨ limit = 0) :
    Mirrors coming bound limit least first second post := by
  intro one two mirrored few fewToo _ _
  obtain ⟨_, _, _, _, same, sameToo, _⟩ := mirrored.rest.similar
  rw [same, List.length_cons] at few
  rw [sameToo, List.length_cons] at fewToo
  omega

/-- The turns suffice in both runs, so the runs of a loop are alike if one turn of it is, up to the
next one. -/
theorem loop {σ : Type} {turn other : Nat → σ → Parser α} {alike : σ → σ → Prop}
    (step : ∀ turns again,
      (∀ before after, alike before after →
        Mirrors [] turns again 0 (turn turns before) (other again after) post) →
      ∀ before after, alike before after →
        Mirrors [] (turns + 1) (again + 1) 0 (turn (turns + 1) before) (other (again + 1) after) post)
    (turns again : Nat) (before after : σ) (like : alike before after) :
    Mirrors [] turns again 0 (turn turns before) (other again after) post := by
  induction turns generalizing again before after with
  | zero => exact exhausted (.inl rfl)
  | succ turns ih =>
      cases again with
      | zero => exact exhausted (.inr rfl)
      | succ again => exact step turns again (ih again) before after like

end Mirrors

end Grammar

end Templating
