import Templating.Proofs.Grammar.Accepts
import Templating.Proofs.Grammar.Levels

/-!
Two runs over tokens that are the same up to a fork. Behind it anything may stand. At the fork one run
meets a whole number that is too long to be read, and the other some number; or both meet the end of
input, and then there is no fork. As long as the other run goes on, so does the first, unless it comes
to the number and is refused there.
-/

namespace Templating

/-- Only digits, and more of them than can be read. -/
structure Token.IsTooLarge (token : Token) : Prop where
  whole : Grammar.isWholeNumeral token
  unread : Grammar.numeral? token.value = none

theorem Token.IsTooLarge.kind {token : Token} (large : token.IsTooLarge) :
    token.kind = .number := by
  have whole := large.whole
  simp only [Grammar.isWholeNumeral, Bool.and_eq_true, beq_iff_eq] at whole
  exact whole.1.1

/-- The kinds of tokens that never stand at a fork. -/
def TokenKind.isShared (kind : TokenKind) : Bool :=
  kind != .number && kind != .endOfInput

/-- If the token is read as a number, the number satisfies the condition. -/
def Token.Gives (numbers : Number → Prop) (token : Token) : Prop :=
  token.kind = .number → ∀ number, Grammar.numeral? token.value = some number → numbers number

/-- The tokens at which two runs part, or the end of both. -/
inductive Fork : Token → Token → Prop where
  | ends {last : Token} (kind : last.kind = .endOfInput) : Fork last last
  | parts {stop other : Token} (large : stop.IsTooLarge) (number : other.kind = .number) :
    Fork stop other

namespace Fork

variable {stop other : Token} (fork : Fork stop other)

include fork

theorem same_kind : stop.kind = other.kind := by
  cases fork with
  | ends => rfl
  | parts large number => rw [large.kind, number]

theorem other_ne {kind : TokenKind} (shared : kind.isShared) : other.kind ≠ kind := by
  rintro rfl
  cases fork with
  | ends last => simp [TokenKind.isShared, last] at shared
  | parts _ number => simp [TokenKind.isShared, number] at shared

theorem stop_ne {kind : TokenKind} (shared : kind.isShared) : stop.kind ≠ kind :=
  fun same => fork.other_ne shared (fork.same_kind.symm.trans same)

theorem not_keyword (word : String) :
    stop.isKeyword word = false ∧ other.isKeyword word = false := by
  simp [Token.isKeyword, fork.stop_ne (by decide : TokenKind.keyword.isShared),
    fork.other_ne (by decide : TokenKind.keyword.isShared)]

theorem not_operator (symbol : String) :
    stop.isOperator symbol = false ∧ other.isOperator symbol = false := by
  simp [Token.isOperator, fork.stop_ne (by decide : TokenKind.operator.isShared),
    fork.other_ne (by decide : TokenKind.operator.isShared)]

end Fork

/-- Two cursors with the same tokens before the fork, all of which satisfy the condition. -/
structure Beside (numbers : Number → Prop) (stop other : Token) (shared : List Token)
    (one two : Cursor) : Prop where
  fork : Fork stop other
  first : ∃ behind, one.rest = shared ++ stop :: behind
  second : ∃ behind, two.rest = shared ++ other :: behind
  template : one.template = two.template
  size : one.size = two.size
  blocks : one.blocks = two.blocks
  enough : shared.length < two.size
  inside : ∀ token ∈ shared, token.kind ≠ .endOfInput
  gives : ∀ token ∈ shared, token.Gives numbers

variable {numbers : Number → Prop} {stop other token : Token} {shared coming : List Token}
  {one two : Cursor}

namespace Beside

theorem current_cons (beside : Beside numbers stop other (token :: shared) one two) :
    one.current = token ∧ two.current = token := by
  obtain ⟨_, first⟩ := beside.first
  obtain ⟨_, second⟩ := beside.second
  simp [Cursor.current, first, second]

theorem current_nil (beside : Beside numbers stop other [] one two) :
    one.current = stop ∧ two.current = other := by
  obtain ⟨_, first⟩ := beside.first
  obtain ⟨_, second⟩ := beside.second
  simp [Cursor.current, first, second]

theorem advance (beside : Beside numbers stop other (token :: shared) one two) :
    Beside numbers stop other shared one.advance two.advance := by
  obtain ⟨behind, first⟩ := beside.first
  obtain ⟨others, second⟩ := beside.second
  have noEnd := beside.inside token List.mem_cons_self
  have enough := beside.enough
  simp only [Cursor.advance, beside.current_cons, noEnd, if_false]
  exact
    { fork := beside.fork
      first := ⟨behind, by simp [first]⟩
      second := ⟨others, by simp [second]⟩
      template := beside.template
      size := beside.size
      blocks := beside.blocks
      enough := Nat.lt_of_succ_lt enough
      inside := fun token member => beside.inside token (List.mem_cons_of_mem _ member)
      gives := fun token member => beside.gives token (List.mem_cons_of_mem _ member) }

end Beside

namespace Grammar

open Templating.Parser

variable {α β : Type}

/-- Whatever the second parser reads before the fork, taking no fewer tokens than the least number out
of at most so many, the first reads as well, unless it is refused for the number at the fork. These
tokens are known to come first. -/
def Tracks (numbers : Number → Prop) (stop other : Token) (coming : List Token) (bound least : Nat)
    (first second : Parser α) (post : α → Prop) : Prop :=
  ∀ ⦃shared : List Token⦄ ⦃one two : Cursor⦄, Beside numbers stop other shared one two →
    shared.length ≤ bound → coming <+: shared → ∀ ⦃value : α⦄ ⦃after : Cursor⦄,
      second two = .ok (value, after) →
        first one = .error (.numberTooLarge stop.value, stop) ∨
          ∃ left cursor, first one = .ok (value, cursor) ∧ left.length + least ≤ shared.length ∧
            Beside numbers stop other left cursor after ∧ post value

/-- The parser does so whatever comes next, and what it gives satisfies the condition. -/
abbrev Steady (numbers : Number → Prop) (stop other : Token) (parser : Parser α)
    (post : α → Prop) : Prop :=
  ∀ bound, Tracks numbers stop other [] bound 0 parser parser post

namespace Tracks

variable {bound least : Nat} {first second : Parser α} {onwards others : α → Parser β}
  {post : α → Prop} {goal : β → Prop}

theorem pure {value : α} (holds : post value) :
    Tracks numbers stop other coming bound 0 (pure value) (pure value) post := by
  intro shared one two beside _ _ result after run
  cases run
  exact .inr ⟨shared, one, rfl, Nat.le_refl _, beside, holds⟩

theorem refuse {cause : GrammarCause} {blamed : Token} :
    Tracks numbers stop other coming bound least first (Parser.refuse cause blamed) post := by
  intro shared one two _ _ _ value after run
  cases run

theorem unexpected {blamed : Token} {expected : Option String} :
    Tracks numbers stop other coming bound least first (Parser.unexpected blamed expected) post :=
  refuse

theorem refuseBind {cause : GrammarCause} {blamed : Token} {whole : Parser β} :
    Tracks numbers stop other coming bound least whole
      ((Parser.refuse cause blamed : Parser α) >>= others) goal := by
  intro shared one two _ _ _ value after run
  cases run

/-- The first parser is refused for the number. -/
theorem stopped (refused : ∀ cursor, first cursor = .error (.numberTooLarge stop.value, stop)) :
    Tracks numbers stop other coming bound least first second post :=
  fun _ _ _ _ _ _ _ _ _ => .inl (refused _)

theorem mono {weaker : α → Prop}
    (tracks : Tracks numbers stop other coming bound least first second post)
    (weakens : ∀ value, post value → weaker value) :
    Tracks numbers stop other coming bound least first second weaker := by
  intro shared one two beside few comes value after run
  rcases tracks beside few comes run with refused | ⟨left, cursor, same, uses, rest, holds⟩
  · exact .inl refused
  · exact .inr ⟨left, cursor, same, uses, rest, weakens value holds⟩

theorem longer {more : List Token}
    (tracks : Tracks numbers stop other coming bound least first second post)
    (begins : coming <+: more) : Tracks numbers stop other more bound least first second post :=
  fun _ _ _ beside few comes _ _ run => tracks beside few (begins.trans comes) run

theorem anywhere (tracks : Tracks numbers stop other [] bound least first second post) :
    Tracks numbers stop other coming bound least first second post :=
  tracks.longer List.nil_prefix

theorem within {more : Nat} (tracks : Tracks numbers stop other coming more least first second post)
    (fewer : bound ≤ more) : Tracks numbers stop other coming bound least first second post :=
  fun _ _ _ beside few comes _ _ run => tracks beside (Nat.le_trans few fewer) comes run

/-- A token that is known to come is counted, and does not end the input. -/
theorem known (tracks : 0 < bound → token.kind ≠ .endOfInput →
      Tracks numbers stop other (token :: coming) bound least first second post) :
    Tracks numbers stop other (token :: coming) bound least first second post := by
  intro shared one two beside few comes value after run
  obtain ⟨rest, rfl⟩ := comes
  have counted : 0 < bound := by
    simp only [List.cons_append, List.length_cons] at few
    omega
  have noEnd : token.kind ≠ .endOfInput := beside.inside token (by simp)
  exact tracks counted noEnd beside few (List.prefix_append _ _) run

theorem bind {total : Nat} (tracks : Tracks numbers stop other coming bound least first second post)
    (continues : ∀ value, post value → Tracks numbers stop other [] (bound - least) (total - least)
      (onwards value) (others value) goal) :
    Tracks numbers stop other coming bound total (first >>= onwards) (second >>= others) goal := by
  intro shared one two beside few comes result after run
  rw [bind_apply] at run
  obtain ⟨⟨value, between⟩, runFirst, runRest⟩ := Outcome.bind_eq_ok.mp run
  simp only [bind_apply]
  rcases tracks beside few comes runFirst with refused | ⟨left, cursor, same, uses, rest, holds⟩
  · exact .inl (by rw [refused]; rfl)
  · rw [same]
    rcases continues value holds rest (by omega) List.nil_prefix runRest with
      refused | ⟨last, final, sameLast, usesLast, restLast⟩
    · exact .inl refused
    · exact .inr ⟨last, final, sameLast, by omega, restLast⟩

theorem current {onwards others : Token → Parser β}
    (continues : ∀ token : Token, token.Gives numbers →
      Tracks numbers stop other [token] bound least (onwards token) (others token) goal)
    (forked : Tracks numbers stop other [] 0 least (onwards stop) (others other) goal) :
    Tracks numbers stop other [] bound least (Parser.current >>= onwards)
      (Parser.current >>= others) goal := by
  intro shared one two beside few _ result after run
  rw [bind_apply, current_apply, Outcome.ok_bind] at run ⊢
  cases shared with
  | nil =>
      rw [beside.current_nil.1]
      rw [beside.current_nil.2] at run
      exact forked beside (Nat.le_refl _) List.nil_prefix run
  | cons token rest =>
      rw [beside.current_cons.1]
      rw [beside.current_cons.2] at run
      exact continues token (beside.gives token List.mem_cons_self) beside few
        (List.cons_prefix_cons.mpr ⟨rfl, List.nil_prefix⟩) run

/-- Behind a known token another may be known, or the fork comes. -/
theorem next {onwards others : Token → Parser β}
    (continues : ∀ following : Token,
      Tracks numbers stop other [token, following] bound least (onwards following)
        (others following) goal)
    (forked : Tracks numbers stop other [token] bound least (onwards stop) (others other) goal) :
    Tracks numbers stop other [token] bound least (Parser.next >>= onwards)
      (Parser.next >>= others) goal := by
  intro shared one two beside few comes result after run
  obtain ⟨rest, rfl⟩ := comes
  obtain ⟨_, first⟩ := beside.first
  obtain ⟨_, second⟩ := beside.second
  rw [bind_apply, next_apply, Outcome.ok_bind] at run ⊢
  cases rest with
  | nil =>
      simp only [Cursor.next, first, second] at run ⊢
      exact forked beside few (List.prefix_refl _) run
  | cons following rest =>
      simp only [Cursor.next, first, second] at run ⊢
      exact continues following beside few (by simp) run

/-- Behind the fork the runs may see anything. -/
theorem nextForked {onwards others : Token → Parser β}
    (continues : ∀ following another : Token,
      Tracks numbers stop other coming bound least (onwards following) (others another) goal) :
    Tracks numbers stop other coming bound least (Parser.next >>= onwards)
      (Parser.next >>= others) goal :=
  fun _ _ _ beside few comes _ _ run => continues _ _ beside few comes run

theorem advance {onwards others : Token → Parser β}
    (continues : ∀ few, few + 1 ≤ bound →
      Tracks numbers stop other coming few (least - 1) (onwards token) (others token) goal) :
    Tracks numbers stop other (token :: coming) bound least (Parser.advance >>= onwards)
      (Parser.advance >>= others) goal := by
  intro shared one two beside few comes result after run
  obtain ⟨behind, rfl⟩ := comes
  rw [List.cons_append] at beside few
  rw [bind_apply, advance_apply, Outcome.ok_bind] at run ⊢
  rw [beside.current_cons.1]
  rw [beside.current_cons.2] at run
  rcases continues (coming ++ behind).length few beside.advance (Nat.le_refl _)
      (List.prefix_append _ _) run with refused | ⟨left, cursor, same, uses, rest⟩
  · exact .inl refused
  · exact .inr ⟨left, cursor, same, by simp only [List.cons_append, List.length_cons]; omega, rest⟩

theorem pass : Tracks numbers stop other (token :: coming) bound 0 Parser.advance Parser.advance
    fun _ => True := by
  rw [← bind_pure Parser.advance]
  exact advance fun _ _ => pure trivial

theorem ofFork
    (tracks : Fork stop other → Tracks numbers stop other coming bound least first second post) :
    Tracks numbers stop other coming bound least first second post :=
  fun _ _ _ beside few comes _ _ run => tracks beside.fork beside few comes run

/-- At the fork both runs come to the end of input, or each to its number. -/
theorem atFork (ends : stop = other → stop.kind = .endOfInput →
      Tracks numbers stop other coming bound least first second post)
    (parts : stop.IsTooLarge → other.kind = .number →
      Tracks numbers stop other coming bound least first second post) :
    Tracks numbers stop other coming bound least first second post := by
  apply ofFork
  intro fork
  cases fork with
  | ends kind => exact ends rfl kind
  | parts large number => exact parts large number

/-- No keyword stands at the fork. -/
theorem keyword {word : String} {yes no yesOther noOther : Token → Parser β}
    (found : ∀ token,
      Tracks numbers stop other [token] bound least (yes token) (yesOther token) goal)
    (absent : ∀ one two, Tracks numbers stop other [] bound least (no one) (noOther two) goal) :
    Tracks numbers stop other [] bound least
      (Parser.current >>= fun token => if token.isKeyword word then yes token else no token)
      (Parser.current >>= fun token =>
        if token.isKeyword word then yesOther token else noOther token) goal := by
  apply current
  · intro token _
    split
    · exact found token
    · exact anywhere (absent token token)
  · apply ofFork
    intro fork
    simp only [fork.not_keyword, Bool.false_eq_true, if_false]
    exact (absent stop other).within (Nat.zero_le _)

theorem expect {kind : TokenKind} {what : String} {onwards others : Token → Parser β}
    (shared : kind.isShared)
    (continues : ∀ token few, few + 1 ≤ bound →
      Tracks numbers stop other [] few (least - 1) (onwards token) (others token) goal) :
    Tracks numbers stop other [] bound least (Parser.expect kind what >>= onwards)
      (Parser.expect kind what >>= others) goal := by
  simp only [Parser.expect, bind_assoc]
  apply current
  · intro token _
    split
    · exact advance (continues token)
    · exact refuseBind
  · intro _ one two beside _ _ value after run
    rw [if_neg (beside.fork.other_ne shared)] at run
    cases run

theorem accept {kind : TokenKind} {onwards others : Bool → Parser β} (shared : kind.isShared)
    (yes : ∀ few, few + 1 ≤ bound →
      Tracks numbers stop other [] few (least - 1) (onwards true) (others true) goal)
    (no : Tracks numbers stop other [] bound least (onwards false) (others false) goal) :
    Tracks numbers stop other [] bound least (Parser.accept kind >>= onwards)
      (Parser.accept kind >>= others) goal := by
  simp only [Parser.accept, bind_assoc]
  apply current
  · intro token _
    split
    · simp only [bind_assoc, pure_bind]
      exact advance yes
    · exact anywhere no
  · intro shared one two beside few comes value after run
    rw [if_neg (beside.fork.other_ne ‹_›)] at run
    rw [if_neg (beside.fork.stop_ne ‹_›)]
    exact no.within (Nat.zero_le _) beside few comes run

/-- Every turn of a loop passes a token, so there are more turns than tokens. -/
theorem size {onwards others : Nat → Parser β}
    (continues : ∀ few budget, few ≤ bound → few < budget →
      Tracks numbers stop other coming few least (onwards budget) (others budget) goal) :
    Tracks numbers stop other coming bound least (Parser.size >>= onwards)
      (Parser.size >>= others) goal := by
  intro shared one two beside few comes result after run
  rw [bind_apply, size_apply, Outcome.ok_bind] at run ⊢
  rw [beside.size]
  exact continues shared.length two.size few beside.enough beside (Nat.le_refl _) comes run

theorem position {onwards others : Option Position → Parser β}
    (continues : ∀ position,
      Tracks numbers stop other coming bound least (onwards position) (others position) goal) :
    Tracks numbers stop other coming bound least (positionOf token >>= onwards)
      (positionOf token >>= others) goal := by
  intro shared one two beside few comes result after run
  rw [bind_apply, positionOf_apply, Outcome.ok_bind] at run ⊢
  rw [beside.template]
  exact continues _ beside few comes run

end Tracks

end Grammar

end Templating
