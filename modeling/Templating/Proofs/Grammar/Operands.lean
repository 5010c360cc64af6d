import Templating.Proofs.Grammar.Implements
import Templating.Proofs.Grammar.Regular

/-!
What no operator splits is read as it is derived: literals, variables, lists, groups and signs.
-/

namespace Templating.Grammar

open Templating.Parser Templating.Derivation

variable {α β : Type} {template : String} {tokens rest : List Token}

/-- The kinds of tokens that can stand behind an expression. -/
def closers : List TokenKind :=
  [.rightParen, .rightBracket, .comma, .expressionClose, .blockClose, .endOfInput]

/-- No expression goes on here. -/
def Closes (rest : List Token) : Prop :=
  ahead rest ∈ closers

theorem Closes.ne {kind : TokenKind} (closes : Closes rest) (other : kind ∉ closers) :
    ahead rest ≠ kind :=
  fun same => other (same ▸ closes)

section

variable {post : List Token → β → Prop}

theorem number_of_whole {token : Token} (whole : isWholeNumeral token) : token.kind = .number := by
  simp only [isWholeNumeral, Bool.and_eq_true, beq_iff_eq] at whole
  exact whole.1.1

/-- The index in brackets is looked at first, and then passed. -/
theorem bracketed_finds {onwards : Segment → Parser β}
    (continues : ∀ index others segment, tokens = index :: others → Index index segment →
      Finds template others (onwards segment) post) :
    Finds template tokens (bracketed >>= fun segment => advance >>= fun _ => onwards segment)
      post := by
  simp only [bracketed, bind_assoc]
  refine .current fun index shown => ?_
  split
  case isTrue whole =>
    have inside : index.kind ≠ .endOfInput := by rw [number_of_whole whole]; decide
    obtain ⟨others, rfl⟩ := shown.cons inside
    unfold numeral
    split
    case h_1 value converts =>
      cases value with
      | int position =>
          simp only [pure_bind]
          exact .advance inside (continues index others _ rfl (.position whole converts))
      | float _ => exact .refuseBind
    case h_2 => exact .refuseBind
  case isFalse =>
    split
    case isTrue quoted =>
      have inside : index.kind ≠ .endOfInput := by rw [quoted]; decide
      obtain ⟨others, rfl⟩ := shown.cons inside
      simp only [pure_bind]
      exact .advance inside (continues index others _ rfl (.key quoted))
    case isFalse => exact .refuseBind

theorem bracketed_takes {index : Token} {segment : Segment} {onwards : Segment → Parser β}
    {value : β} (inside : Index index segment)
    (continues : Takes template tokens (onwards segment) rest value) :
    Takes template (index :: tokens)
      (bracketed >>= fun segment => advance >>= fun _ => onwards segment) rest value := by
  simp only [bracketed, bind_assoc]
  refine .current fun shown known => ?_
  cases known
  cases inside with
  | position digits converts =>
      have number := number_of_whole digits
      simp only [digits, if_true, numeral, converts, pure_bind]
      exact .advance (by rw [number]; decide) continues
  | key quoted =>
      have noNumber : ¬ isWholeNumeral index := by simp [isWholeNumeral, quoted]
      rw [if_neg noNumber, if_pos quoted]
      simp only [pure_bind]
      exact .advance (by rw [quoted]; decide) continues

end

/-- The steps that are read end where no step follows. -/
theorem pathRest_finds {budget : Nat} (enough : tokens.length ≤ budget) (path : List Segment) :
    Finds template tokens (pathRest budget path) fun rest whole =>
      ∃ steps, Path tokens rest steps ∧ whole = path ++ steps ∧ ahead rest ≠ .dot ∧
        ahead rest ≠ .leftBracket := by
  induction budget generalizing tokens path with
  | zero =>
      obtain rfl := List.length_eq_zero_iff.mp (Nat.le_zero.mp enough)
      exact .pure ⟨[], .done, (List.append_nil path).symm, nofun, nofun⟩
  | succ budget ih =>
      rw [pathRest]
      refine .accept (by decide) (fun dot others same separates => ?_) fun noDot => ?_
      · subst same
        refine .expect (by decide) fun name behind same named => ?_
        subst same
        refine (ih ?_ _).mono fun rest whole found => ?_
        · simp only [List.length_cons] at enough
          omega
        · obtain ⟨steps, derived, rfl, ends⟩ := found
          exact ⟨_, .dotted separates named derived, by simp, ends⟩
      · refine .accept (by decide) (fun opening others same opens => ?_) fun noBracket => ?_
        · subst same
          refine bracketed_finds fun index between segment same inside => ?_
          subst same
          refine .expect (by decide) fun closing behind same closes => ?_
          subst same
          refine (ih ?_ _).mono fun rest whole found => ?_
          · simp only [List.length_cons] at enough
            omega
          · obtain ⟨steps, derived, rfl, ends⟩ := found
            exact ⟨_, .bracketed opens inside closes derived, by simp, ends⟩
        · exact .pure ⟨[], .done, (List.append_nil path).symm, noDot, noBracket⟩

theorem pathRest_takes {steps : List Segment} (derived : Path tokens rest steps)
    (noDot : ahead rest ≠ .dot) (noBracket : ahead rest ≠ .leftBracket) {budget : Nat}
    (enough : tokens.length ≤ budget) (path : List Segment) :
    Takes template tokens (pathRest budget path) rest (path ++ steps) := by
  induction derived generalizing budget path with
  | done =>
      rw [List.append_nil]
      cases budget with
      | zero => exact .pure _ _
      | succ budget =>
          rw [pathRest]
          exact .acceptOther noDot (.acceptOther noBracket (.pure _ _))
  | @dotted dot name _ _ steps separates named _ ih =>
      obtain ⟨budget, rfl⟩ := Nat.exists_eq_succ_of_ne_zero (Nat.ne_zero_of_lt enough)
      rw [pathRest, List.append_cons path]
      refine .accept separates (by decide) (.expect named (by decide) ?_)
      simp only [List.length_cons] at enough
      exact ih noDot noBracket (by omega) _
  | @bracketed opening index closing _ _ segment steps opens inside closes _ ih =>
      obtain ⟨budget, rfl⟩ := Nat.exists_eq_succ_of_ne_zero (Nat.ne_zero_of_lt enough)
      have other : opening.kind ≠ .dot := by rw [opens]; decide
      rw [pathRest, List.append_cons path]
      refine .acceptOther other (.accept opens (by decide) (bracketed_takes inside ?_))
      refine .expect closes (by decide) ?_
      simp only [List.length_cons] at enough
      exact ih noDot noBracket (by omega) _

section

variable {nested : Parser Expr} {derives : Derivation Expr}
  (implements : Implements template nested derives Closes) (regular : Regular derives)

include implements regular

theorem itemsRest_finds {budget : Nat} (enough : tokens.length ≤ budget) (items : List Expr) :
    Finds template tokens (itemsRest nested budget items) fun rest whole =>
      ∃ more, Closed .rightBracket derives tokens rest more ∧ whole = items ++ more := by
  induction budget generalizing tokens items with
  | zero =>
      rw [itemsRest]
      refine (implements.sound tokens).bind (fun _ _ derived => regular.advances.suffix derived)
        fun rest item derived => ?_
      have shorter := regular.advances.shorter derived
      omega
  | succ budget ih =>
      rw [itemsRest]
      refine (implements.sound tokens).bind (fun _ _ derived => regular.advances.suffix derived)
        fun between item derived => ?_
      refine .accept (by decide) (fun close others same closes => ?_) fun _ => ?_
      · subst same
        exact .pure ⟨_, .last derived closes, rfl⟩
      · refine .expect (by decide) fun comma others same separates => ?_
        subst same
        have shorter := regular.advances.shorter derived
        simp only [List.length_cons] at shorter
        refine (ih (by omega) _).mono fun rest whole found => ?_
        obtain ⟨more, closed, rfl⟩ := found
        exact ⟨_, .more derived separates closed, by simp⟩

theorem itemsRest_takes {more : List Expr} (closed : Closed .rightBracket derives tokens rest more)
    {budget : Nat} (enough : tokens.length ≤ budget) (items : List Expr) :
    Takes template tokens (itemsRest nested budget items) rest (items ++ more) := by
  induction closed generalizing budget items with
  | @last _ _ close _ derived closes =>
      have shorter := regular.advances.shorter derived
      obtain ⟨budget, rfl⟩ := Nat.exists_eq_succ_of_ne_zero (by omega : budget ≠ 0)
      have ends : close.kind ∈ closers := by rw [closes]; decide
      rw [itemsRest]
      refine (implements.complete derived ends).bind (regular.advances.suffix derived) ?_
      exact .accept closes (by decide) (.pure _ _)
  | @more _ _ _ comma _ _ derived separates _ ih =>
      have shorter := regular.advances.shorter derived
      simp only [List.length_cons] at shorter
      obtain ⟨budget, rfl⟩ := Nat.exists_eq_succ_of_ne_zero (by omega : budget ≠ 0)
      have ends : comma.kind ∈ closers := by rw [separates]; decide
      have goesOn : comma.kind ≠ .rightBracket := by rw [separates]; decide
      rw [itemsRest, List.append_cons items]
      refine (implements.complete derived ends).bind (regular.advances.suffix derived) ?_
      exact .acceptOther goesOn (.expect separates (by decide) (ih (by omega) _))

theorem listItems_implements :
    Implements template (listItems nested) (Bracketed .rightBracket derives) fun _ => True where
  sound tokens := by
    rw [listItems]
    refine .accept (by decide) (fun close others same closes => ?_) fun _ => ?_
    · subst same
      exact .pure (.empty closes)
    · refine .size fun budget enough => ?_
      refine (itemsRest_finds implements regular enough []).mono fun rest whole found => ?_
      obtain ⟨items, closed, rfl⟩ := found
      exact .items closed
  complete tokens rest items bracketed _ := by
    rw [listItems]
    cases bracketed with
    | empty closes => exact .accept closes (by decide) (.pure _ _)
    | items closed =>
        have begins : ahead tokens ≠ .rightBracket := by
          cases closed with
          | last derived | more derived => exact regular.ahead_ne derived (by decide)
        exact .acceptOther begins
          (.size fun budget enough => itemsRest_takes implements regular closed enough [])

/-- What no operator splits is read as derived, whatever follows. -/
theorem primary_implements :
    Implements template (primary nested) (Primary template derives) fun _ => True where
  sound tokens := by
    rw [primary]
    refine .current fun token shown => ?_
    split
    case h_1 kind =>
      obtain ⟨others, rfl⟩ := shown.cons (by rw [kind]; decide)
      refine .advance (by rw [kind]; decide) ?_
      unfold numeral
      split
      case h_1 number converts =>
        simp only [pure_bind]
        exact .position (.pure (.number kind converts))
      case h_2 => exact .refuseBind
    case h_2 kind =>
      obtain ⟨others, rfl⟩ := shown.cons (by rw [kind]; decide)
      exact .advance (by rw [kind]; decide) (.position (.pure (.string kind)))
    case h_3 kind =>
      obtain ⟨others, rfl⟩ := shown.cons (by rw [kind]; decide)
      exact .advance (by rw [kind]; decide) (.position (.pure (.boolean kind)))
    case h_4 kind =>
      obtain ⟨others, rfl⟩ := shown.cons (by rw [kind]; decide)
      exact .advance (by rw [kind]; decide) (.position (.pure (.null kind)))
    case h_5 kind =>
      obtain ⟨others, rfl⟩ := shown.cons (by rw [kind]; decide)
      refine .advance (by rw [kind]; decide) ?_
      refine ((listItems_implements implements regular).sound others).bind
        (fun _ _ derived => (Bracketed.advances regular.advances).suffix derived)
        fun rest items derived => ?_
      exact .position (.pure (.list kind derived))
    case h_6 kind =>
      obtain ⟨others, rfl⟩ := shown.cons (by rw [kind]; decide)
      refine .advance (by rw [kind]; decide) ?_
      refine (implements.sound others).bind (fun _ _ derived => regular.advances.suffix derived)
        fun between inside derived => ?_
      refine .expect (by decide) fun close rest same closes => ?_
      subst same
      exact .pure (.group kind derived closes)
    case h_7 kind =>
      obtain ⟨others, rfl⟩ := shown.cons (by rw [kind]; decide)
      refine .advance (by rw [kind]; decide) (.size fun budget enough => ?_)
      refine (pathRest_finds enough []).bind ?_ fun rest steps found => ?_
      · rintro rest whole ⟨steps, derived, _⟩
        exact derived.suffix
      · obtain ⟨steps, derived, rfl, noDot, noBracket⟩ := found
        exact .position (.pure (.reference kind derived noDot noBracket))
    case h_8 => exact .refuse
  complete tokens rest value derived _ := by
    rw [primary]
    refine .current fun token shown => ?_
    cases derived with
    | number kind converts =>
        cases shown
        simp only [kind, numeral, converts, pure_bind]
        exact .advance (by rw [kind]; decide) (.position (.pure _ _))
    | string kind | boolean kind | null kind =>
        cases shown
        simp only [kind]
        exact .advance (by rw [kind]; decide) (.position (.pure _ _))
    | list kind bracketed =>
        cases shown
        simp only [kind]
        refine .advance (by rw [kind]; decide) ?_
        refine ((listItems_implements implements regular).complete bracketed trivial).bind
          ((Bracketed.advances regular.advances).suffix bracketed) ?_
        exact .position (.pure _ _)
    | @group _ close _ _ _ kind inside closes =>
        cases shown
        simp only [kind]
        have ends : close.kind ∈ closers := by rw [closes]; decide
        refine .advance (by rw [kind]; decide) ?_
        refine (implements.complete inside ends).bind (regular.advances.suffix inside) ?_
        exact .expect closes (by decide) (.pure _ _)
    | reference kind steps noDot noBracket =>
        cases shown
        simp only [kind]
        refine .advance (by rw [kind]; decide) (.size fun budget enough => ?_)
        refine (pathRest_takes steps noDot noBracket enough []).bind steps.suffix ?_
        exact .position (.pure _ _)

end

section

variable {operand unsplit : Derivation Expr}

/-- Signs are read as derived, whatever follows. -/
theorem signed_implements {deeper : Token → Parser Expr} {unsigned : Parser Expr}
    (signs : ∀ token, Implements template (deeper token) operand fun _ => True)
    (signsAdvance : Advances operand)
    (implements : Implements template unsigned unsplit fun _ => True)
    (starts : ∀ ⦃token tokens rest value⦄, unsplit (token :: tokens) rest value →
      token.kind ∈ startKinds) (advances : Advances unsplit) :
    Implements template (signed deeper unsigned) (Signed template operand unsplit)
      fun _ => True where
  sound tokens := by
    rw [signed]
    refine .current fun token shown => ?_
    cases reads : unaryOperator? token with
    | none => exact (implements.sound tokens).mono fun _ _ derived => .plain derived
    | some operator =>
        have inside : token.kind ≠ .endOfInput := ne_endOfInput (unary_kind reads)
        obtain ⟨others, rfl⟩ := shown.cons inside
        refine .advance inside ?_
        refine ((signs token).sound others).bind (fun _ _ derived => signsAdvance.suffix derived)
          fun rest value derived => ?_
        exact .position (.pure (.sign reads derived))
  complete tokens rest value derived _ := by
    rw [signed]
    refine .current fun token shown => ?_
    cases derived with
    | plain derives =>
        obtain ⟨first, others, rfl, _⟩ := advances derives
        cases shown
        rw [unaryOperator?_eq_none (starts derives)]
        exact implements.complete derives trivial
    | sign reads derives =>
        cases shown
        rw [reads]
        have inside : token.kind ≠ .endOfInput := ne_endOfInput (unary_kind reads)
        refine .advance inside ?_
        refine ((signs token).complete derives trivial).bind (signsAdvance.suffix derives) ?_
        exact .position (.pure _ _)

end

end Templating.Grammar
