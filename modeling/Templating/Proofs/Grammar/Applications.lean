import Templating.Proofs.Grammar.Operands
import Templating.Proofs.Grammar.Operations

/-!
Filters are read as they are derived, with arguments in parentheses or without.
-/

namespace Templating

namespace Derivation

open Grammar

/-- The arguments with one more. -/
def add (before : Arguments) : Option String × Expr → Arguments
  | (none, value) => { before with positional := before.positional ++ [value] }
  | (some name, value) => { before with named := before.named ++ [(name, value)] }

/-- One more argument may come: by position if there is none with a name, or with a new name. -/
def Fits (before : Arguments) : Option String → Prop
  | none => before.named = []
  | some name => name ∉ before.named.map (·.1)

/-- These arguments may come one after the other. -/
def AllFit (before : Arguments) : List (Option String × Expr) → Prop
  | [] => True
  | one :: more => Fits before one.1 ∧ AllFit (add before one) more

theorem listed_add {before : Arguments} {one : Option String × Expr} (fits : Fits before one.1) :
    listed (add before one) = listed before ++ [one] := by
  obtain ⟨_ | name, value⟩ := one
  · have none : before.named = [] := fits
    simp [listed, add, none]
  · simp [listed, add]

theorem names_add {before : Arguments} {one : Option String × Expr} (fits : Fits before one.1)
    (distinct : (before.named.map (·.1)).Nodup) : ((add before one).named.map (·.1)).Nodup := by
  obtain ⟨_ | name, value⟩ := one
  · exact distinct
  · rw [add, List.map_append, List.map_singleton, ← List.concat_eq_append, List.nodup_concat]
    exact ⟨fits, distinct⟩

theorem listed_injective {left right : Arguments} (same : listed left = listed right) :
    left = right := by
  have positional (arguments : Arguments) : (listed arguments).filterMap
      (fun argument => if argument.1.isNone then some argument.2 else none) =
        arguments.positional := by
    simp [listed, List.filterMap_append, List.filterMap_map]
  have named (arguments : Arguments) : (listed arguments).filterMap
      (fun argument => argument.1.map (·, argument.2)) = arguments.named := by
    simp [listed, List.filterMap_append, List.filterMap_map]
  obtain ⟨positionalLeft, namedLeft⟩ := left
  obtain ⟨positionalRight, namedRight⟩ := right
  have first := (positional ⟨positionalLeft, namedLeft⟩).symm.trans
    ((congrArg _ same).trans (positional ⟨positionalRight, namedRight⟩))
  have second := (named ⟨positionalLeft, namedLeft⟩).symm.trans
    ((congrArg _ same).trans (named ⟨positionalRight, namedRight⟩))
  cases first
  cases second
  rfl

theorem names_listed (arguments : Arguments) :
    (listed arguments).filterMap (·.1) = arguments.named.map (·.1) := by
  simp [listed, List.filterMap_append, List.filterMap_map]

/-- Behind an argument with a name all have one. -/
theorem listed_ordered (arguments : Arguments) :
    (listed arguments).Pairwise fun first second => first.1.isSome → second.1.isSome := by
  rw [listed, List.pairwise_append]
  refine ⟨?_, ?_, ?_⟩
  · rw [List.pairwise_map]
    exact List.pairwise_of_forall fun _ _ => id
  · rw [List.pairwise_map]
    exact List.pairwise_of_forall fun _ _ => id
  · intro first member second memberSecond some
    obtain ⟨_, _, rfl⟩ := List.mem_map.mp member
    cases some

theorem arranged_of_allFit {before : Arguments} {written : List (Option String × Expr)}
    (fit : AllFit before written) (distinct : (before.named.map (·.1)).Nodup) :
    Arranged (listed before ++ written) (written.foldl add before) := by
  induction written generalizing before with
  | nil => exact ⟨List.append_nil _, distinct⟩
  | cons one more ih =>
      obtain ⟨fits, others⟩ := fit
      rw [List.append_cons, ← listed_add fits]
      exact ih others (names_add fits distinct)

theorem fits_of_arranged {before whole : Arguments} {one : Option String × Expr}
    {more : List (Option String × Expr)}
    (arranged : Arranged (listed before ++ one :: more) whole) : Fits before one.1 := by
  obtain ⟨_ | name, value⟩ := one
  · have ordered := listed_ordered whole
    rw [← arranged.order, List.pairwise_append] at ordered
    refine List.eq_nil_iff_forall_not_mem.mpr fun argument member => ?_
    have inside : (some argument.1, argument.2) ∈ listed before :=
      List.mem_append_right _ (List.mem_map_of_mem member)
    have never := ordered.2.2 _ inside (none, value) List.mem_cons_self rfl
    cases never
  · have distinct := arranged.distinct
    rw [← names_listed, ← arranged.order, List.filterMap_append, List.nodup_append] at distinct
    rw [Fits, ← names_listed]
    exact fun member => distinct.2.2 name member name List.mem_cons_self rfl

theorem allFit_of_arranged {before whole : Arguments} {written : List (Option String × Expr)}
    (arranged : Arranged (listed before ++ written) whole) :
    AllFit before written ∧ written.foldl add before = whole := by
  induction written generalizing before with
  | nil => exact ⟨trivial, listed_injective ((List.append_nil _).symm.trans arranged.order)⟩
  | cons one more ih =>
      have fits := fits_of_arranged arranged
      rw [List.append_cons, ← listed_add fits] at arranged
      obtain ⟨others, same⟩ := ih arranged
      exact ⟨⟨fits, others⟩, same⟩

end Derivation

namespace Grammar

open Templating.Parser Templating.Derivation

variable {template : String} {tokens rest : List Token}

/-- An argument has a name where a word or a string is followed by a colon. -/
theorem namesArgument_iff {token second : Token} :
    ((token.kind = .identifier || token.kind = .string) && second.kind = .colon : Bool) ↔
      (token.kind = .identifier ∨ token.kind = .string) ∧ second.kind = .colon := by
  simp

section

variable {value : Parser Expr} {derives : Derivation Expr} {stops : List Token → Prop}
  (implements : Implements template value derives stops) (regular : Regular derives)

include implements regular

theorem argument_finds (before : Arguments) :
    Finds template tokens (argument value before) fun rest after =>
      ∃ one, Argument derives tokens rest one ∧ Fits before one.1 ∧ after = add before one := by
  rw [argument]
  refine .current fun token shown => .next shown fun second colon => ?_
  split
  case isTrue named =>
    obtain ⟨word, behind⟩ := namesArgument_iff.mp named
    have inside : token.kind ≠ .endOfInput := word_inside word
    obtain ⟨others, rfl⟩ := shown.cons inside
    have separates : ahead others = .colon := (colon word).mp behind
    obtain ⟨mark, others, rfl⟩ : ∃ mark more, others = mark :: more := by
      cases others with
      | nil => cases separates
      | cons mark more => exact ⟨mark, more, rfl⟩
    split
    case isTrue => exact .refuse
    case isFalse fresh =>
      have passes : mark.kind ≠ .endOfInput := by rw [show mark.kind = _ from separates]; decide
      refine .advance inside (.advance passes ?_)
      refine (implements.sound others).bind (fun _ _ derived => regular.advances.suffix derived)
        fun rest expr derived => .pure ⟨_, .named word separates derived, ?_, rfl⟩
      simpa [Fits] using fresh
  case isFalse =>
    split
    case isTrue => exact .refuse
    case isFalse alone =>
      refine (implements.sound tokens).bind (fun _ _ derived => regular.advances.suffix derived)
        fun rest expr derived => .pure ⟨_, .positional derived, ?_, rfl⟩
      simpa [Fits] using alone

theorem argument_takes {before : Arguments} {one : Option String × Expr}
    (derived : Argument derives tokens rest one) (fits : Fits before one.1) (stop : stops rest)
    (noColon : ahead rest ≠ .colon) :
    Takes template tokens (argument value before) rest (add before one) := by
  rw [argument]
  refine .current fun token shown => .next shown fun second colon => ?_
  cases derived with
  | positional derives =>
      have unnamed : ¬ ((token.kind = .identifier || token.kind = .string) &&
          second.kind = .colon : Bool) := by
        intro named
        obtain ⟨word, behind⟩ := namesArgument_iff.mp named
        obtain ⟨first, others, rfl, _⟩ := regular.advances derives
        cases shown
        exact regular.colonless derives word noColon ((colon word).mp behind)
      have none : before.named = [] := fits
      rw [if_neg unnamed, if_neg (by simp [none])]
      exact (implements.complete derives stop).bind (regular.advances.suffix derives) (.pure _ _)
  | named word separates derives =>
      cases shown
      have behind : second.kind = .colon := (colon word).mpr separates
      have fresh : ¬ before.named.any (·.1 == token.value) := by
        simpa [Fits] using fits
      rw [if_pos (namesArgument_iff.mpr ⟨word, behind⟩), if_neg fresh]
      refine .advance (word_inside word) (.advance (by rw [separates]; decide) ?_)
      exact (implements.complete derives stop).bind (regular.advances.suffix derives) (.pure _ _)

theorem bareArguments_finds (budget : Nat) (before : Arguments) :
    Finds template tokens (bareArguments value budget before) fun rest after =>
      ∃ written, Bare derives tokens rest written ∧ AllFit before written ∧
        after = written.foldl add before := by
  induction budget generalizing tokens before with
  | zero => exact .pure ⟨[], .done, trivial, rfl⟩
  | succ budget ih =>
      rw [bareArguments]
      refine .current fun token shown => ?_
      split
      case isTrue starts =>
        refine (argument_finds implements regular before).bind ?_ ?_
        · rintro rest after ⟨one, derived, _⟩
          exact (Argument.advances regular.advances).suffix derived
        · rintro between after ⟨one, derived, fits, rfl⟩
          refine (ih _).mono ?_
          rintro rest after ⟨written, further, fit, rfl⟩
          exact ⟨one :: written, .more (shown.kind ▸ starts) derived further, ⟨fits, fit⟩, rfl⟩
      case isFalse => exact .pure ⟨[], .done, trivial, rfl⟩

end

/-- Arguments without parentheses end here: another filter follows, or the expression ends. -/
def EndsFilter (rest : List Token) : Prop :=
  ahead rest = .pipe ∨ Closes rest

theorem EndsFilter.bare {rest : List Token} (ends : EndsFilter rest) :
    ¬ startsBareArgument (ahead rest) := by
  rcases ends with pipe | closes
  · rw [pipe]
    decide
  · have none : ∀ kind ∈ closers, ¬ startsBareArgument kind := by decide
    exact none _ closes

theorem EndsFilter.ne {rest : List Token} (ends : EndsFilter rest) {kind : TokenKind}
    (other : kind ∉ TokenKind.pipe :: closers) : ahead rest ≠ kind := by
  rintro rfl
  rcases ends with pipe | closes
  · exact other (pipe ▸ List.mem_cons_self)
  · exact other (List.mem_cons_of_mem _ closes)

theorem EndsFilter.stops {rest : List Token} (ends : EndsFilter rest) : Stops levels rest :=
  stops_of_kind (List.Subset.refl levels) (ends.ne (by decide)) (ends.ne (by decide))

theorem bareArguments_takes {value : Parser Expr} {derives : Derivation Expr}
    (implements : Implements template value derives fun _ => True) (regular : Regular derives)
    {before : Arguments} {written : List (Option String × Expr)}
    (derived : Bare derives tokens rest written) (fit : AllFit before written)
    (ends : EndsFilter rest) {budget : Nat} (enough : tokens.length ≤ budget) :
    Takes template tokens (bareArguments value budget before) rest (written.foldl add before) := by
  induction derived generalizing budget before with
  | done =>
      cases budget with
      | zero => exact .pure _ _
      | succ budget =>
          rw [bareArguments]
          refine .current fun token shown => ?_
          rw [if_neg (shown.kind ▸ ends.bare)]
          exact .pure _ _
  | @more tokens between rest one written starts first further ih =>
      obtain ⟨fits, others⟩ := fit
      have noColon : ahead between ≠ .colon := by
        cases further with
        | done => exact ends.ne (by decide)
        | more starts =>
            intro same
            rw [same] at starts
            cases starts
      have shorter := (Argument.advances regular.advances).shorter first
      obtain ⟨budget, rfl⟩ := Nat.exists_eq_succ_of_ne_zero (by omega : budget ≠ 0)
      rw [bareArguments]
      refine .current fun token shown => ?_
      rw [if_pos (shown.kind ▸ starts)]
      refine (argument_takes implements regular first fits trivial noColon).bind
        ((Argument.advances regular.advances).suffix first) ?_
      exact ih others ends (by omega)

section

variable {nested : Parser Expr} {derives : Derivation Expr}
  (implements : Implements template nested derives Closes) (regular : Regular derives)

include implements regular

theorem argumentsRest_finds {budget : Nat} (enough : tokens.length ≤ budget) (before : Arguments) :
    Finds template tokens (argumentsRest nested budget before) fun rest after =>
      ∃ written, Closed .rightParen (Argument derives) tokens rest written ∧
        AllFit before written ∧ after = written.foldl add before := by
  have advances := Argument.advances regular.advances
  induction budget generalizing tokens before with
  | zero =>
      rw [argumentsRest]
      refine (argument_finds implements regular before).mono ?_
      rintro rest after ⟨one, derived, _⟩
      have shorter := advances.shorter derived
      omega
  | succ budget ih =>
      rw [argumentsRest]
      refine (argument_finds implements regular before).bind ?_ ?_
      · rintro between after ⟨one, derived, _⟩
        exact advances.suffix derived
      rintro between after ⟨one, derived, fits, rfl⟩
      refine .accept (by decide) (fun close others same closes => ?_) fun _ => ?_
      · subst same
        exact .pure ⟨[one], .last derived closes, ⟨fits, trivial⟩, rfl⟩
      · refine .expect (by decide) fun comma others same separates => ?_
        subst same
        have shorter := advances.shorter derived
        simp only [List.length_cons] at shorter
        refine (ih (by omega) _).mono ?_
        rintro rest after ⟨written, closed, fit, rfl⟩
        exact ⟨one :: written, .more derived separates closed, ⟨fits, fit⟩, rfl⟩

theorem argumentsRest_takes {before : Arguments} {written : List (Option String × Expr)}
    (closed : Closed .rightParen (Argument derives) tokens rest written)
    (fit : AllFit before written) {budget : Nat} (enough : tokens.length ≤ budget) :
    Takes template tokens (argumentsRest nested budget before) rest
      (written.foldl add before) := by
  have advances := Argument.advances regular.advances
  induction closed generalizing budget before with
  | @last _ _ close one derived closes =>
      have shorter := advances.shorter derived
      obtain ⟨budget, rfl⟩ := Nat.exists_eq_succ_of_ne_zero (by omega : budget ≠ 0)
      have ends : close.kind ∈ closers := by rw [closes]; decide
      have noColon : close.kind ≠ .colon := by rw [closes]; decide
      rw [argumentsRest]
      refine (argument_takes implements regular derived fit.1 ends noColon).bind
        (advances.suffix derived) ?_
      exact .accept closes (by decide) (.pure _ _)
  | @more _ _ _ comma one written derived separates _ ih =>
      have shorter := advances.shorter derived
      simp only [List.length_cons] at shorter
      obtain ⟨budget, rfl⟩ := Nat.exists_eq_succ_of_ne_zero (by omega : budget ≠ 0)
      have ends : comma.kind ∈ closers := by rw [separates]; decide
      have noColon : comma.kind ≠ .colon := by rw [separates]; decide
      have goesOn : comma.kind ≠ .rightParen := by rw [separates]; decide
      rw [argumentsRest]
      refine (argument_takes implements regular derived fit.1 ends noColon).bind
        (advances.suffix derived) ?_
      exact .acceptOther goesOn (.expect separates (by decide) (ih fit.2 (by omega)))

theorem closedArguments_finds :
    Finds template tokens (closedArguments nested) fun rest arguments =>
      ∃ written, Bracketed .rightParen (Argument derives) tokens rest written ∧
        Arranged written arguments := by
  rw [closedArguments]
  refine .accept (by decide) (fun close others same closes => ?_) fun _ => ?_
  · subst same
    exact .pure ⟨[], .empty closes, rfl, List.nodup_nil⟩
  · refine .size fun budget enough => (argumentsRest_finds implements regular enough {}).mono ?_
    rintro rest after ⟨written, closed, fit, rfl⟩
    exact ⟨written, .items closed, arranged_of_allFit fit List.nodup_nil⟩

theorem closedArguments_takes {written : List (Option String × Expr)} {arguments : Arguments}
    (bracketed : Bracketed .rightParen (Argument derives) tokens rest written)
    (arranged : Arranged written arguments) :
    Takes template tokens (closedArguments nested) rest arguments := by
  have all : AllFit {} written ∧ written.foldl add {} = arguments := allFit_of_arranged arranged
  obtain ⟨fit, rfl⟩ := all
  rw [closedArguments]
  cases bracketed with
  | empty closes => exact .accept closes (by decide) (.pure _ _)
  | items closed =>
      have begins : ahead tokens ≠ .rightParen := by
        cases closed with
        | last first | more first => exact Argument.ahead_ne regular first (by decide)
      exact .acceptOther begins
        (.size fun budget enough => argumentsRest_takes implements regular closed fit enough)

/-- Where filters may follow or the expression ends, a filter is read as derived. -/
theorem filtersRest_loops :
    Loops template (filtersRest nested) (Application template derives) EndsFilter Closes where
  finish _ := rfl
  finds := by
    intro budget value tokens post holds onwards
    rw [filtersRest]
    refine .accept (by decide) (fun bar others same pipe => ?_) fun _ => .pure holds
    subst same
    refine .expect (by decide) fun name others same named => ?_
    subst same
    have primary : Regular (Primary template derives) := Primary.regular regular.advances
    refine .accept (by decide) (fun opening behind same opens => ?_) fun _ => ?_
    · subst same
      refine (closedArguments_finds implements regular).bind ?_ ?_
      · rintro rest arguments ⟨written, derived, _⟩
        exact (Bracketed.advances (Argument.advances regular.advances)).suffix derived
      · rintro rest arguments ⟨written, derived, arranged⟩
        exact .position (onwards rest _ (.closed pipe named opens derived arranged))
    · refine .size fun turns _ => ?_
      refine (bareArguments_finds (primary_implements implements regular) primary turns {}).bind
        ?_ ?_
      · rintro rest arguments ⟨written, derived, _⟩
        exact derived.suffix primary.advances
      · rintro rest arguments ⟨written, derived, fit, rfl⟩
        have arranged : Arranged written (written.foldl add {}) :=
          arranged_of_allFit fit List.nodup_nil
        exact .position (onwards rest _ (.bare pipe named derived arranged))
  takes := by
    intro budget value longer result tokens behind rest goesOn ends onwards
    rw [filtersRest]
    cases goesOn with
    | closed pipe named opens derived arranged =>
        refine .accept pipe (by decide) (.expect named (by decide) ?_)
        refine .accept opens (by decide) ?_
        refine (closedArguments_takes implements regular derived arranged).bind
          ((Bracketed.advances (Argument.advances regular.advances)).suffix derived) ?_
        exact .position onwards
    | @bare bar name others _ written arguments pipe named derived arranged =>
        have primary : Regular (Primary template derives) := Primary.regular regular.advances
        have all : AllFit {} written ∧ written.foldl add {} = arguments :=
          allFit_of_arranged arranged
        obtain ⟨fit, rfl⟩ := all
        have bare : ahead others ≠ .leftParen := by
          cases derived with
          | done => exact ends.ne (by decide)
          | more starts =>
              intro same
              rw [same] at starts
              cases starts
        refine .accept pipe (by decide) (.expect named (by decide) (.acceptOther bare ?_))
        refine .size fun turns enough => ?_
        refine (bareArguments_takes (primary_implements implements regular) primary derived fit ends
          enough).bind (derived.suffix primary.advances) ?_
        exact .position onwards
  ends := by
    intro rest closes
    refine ⟨.inr closes, fun budget value => ?_⟩
    cases budget with
    | zero => exact .pure _ _
    | succ budget =>
        rw [filtersRest]
        exact .acceptOther (closes.ne (by decide)) (.pure _ _)
  begins := fun goesOn => .inl goesOn.pipe
  advances := Application.advances regular.advances

theorem filtered_implements {unary : Parser Expr} {operand : Derivation Expr}
    (operands : Implements template unary operand fun _ => True) (signs : Regular operand) :
    Implements template (filtered unary nested) (Filtered template operand derives) Closes := by
  have disjunctions := disjunction_implements operands signs
  have inner : Implements template (disjunction unary) (Disjunction template operand) EndsFilter :=
    ⟨disjunctions.sound, fun _ _ _ derived ends => disjunctions.complete derived ends.stops⟩
  exact chain_implements inner (foldr_regular signs (List.Subset.refl levels)).advances
    (filtersRest_loops implements regular)

end

end Grammar

end Templating
