import Templating.Proofs.Grammar.Pieces
import Templating.Proofs.Grammar.TracksExpression

/-!
Two runs over a template. A template has an end only where its tokens do, so a run that comes to the
number at the fork is refused for it.
-/

namespace Templating

open Node

/-- Every number that stands in the node satisfies the condition. -/
abbrev Node.Numbers (numbers : Number → Prop) (node : Node) : Prop :=
  node.Every (fun _ => True) (Expr.Numbers numbers)

/-- Every number that stands in the body satisfies the condition. -/
abbrev Node.BodyNumbers (numbers : Number → Prop) : List Node → Prop :=
  BodyEvery (fun _ => True) (Expr.Numbers numbers)

namespace Grammar

open Templating.Parser

variable {numbers : Number → Prop} {stop other : Token} {coming : List Token} {bound least : Nat}

theorem endTag_steady : Steady numbers stop other endTag fun _ => True := by
  intro bound
  apply Tracks.expect (by decide)
  exact fun _ _ _ => Tracks.pure trivial

theorem directive_steady (word : String) :
    Steady numbers stop other (directive word) fun _ => True := by
  intro bound
  apply Tracks.expect (by decide)
  intro _ few _
  exact Tracks.keyword (fun keyword => Tracks.pass) fun _ _ => Tracks.unexpected

theorem loopTargets_steady : Steady numbers stop other loopTargets fun _ => True := by
  intro bound
  apply Tracks.expect (by decide)
  intro first few _
  apply Tracks.accept (by decide)
  · intro few _
    apply Tracks.expect (by decide)
    intro second few _
    split
    · exact Tracks.unexpected
    · exact Tracks.pure trivial
  · exact Tracks.pure trivial

theorem openBlock_steady (name : Token) :
    Steady numbers stop other (openBlock name) fun _ => True := by
  intro bound shared one two beside _ _ value after run
  cases found : two.blocks.lookup name.value with
  | some first =>
      rw [openBlock_taken found] at run
      cases run
  | none =>
      rw [openBlock_fresh found] at run
      cases run
      rw [openBlock_fresh (beside.blocks ▸ found)]
      exact .inr ⟨shared, _, rfl, Nat.le_refl _, { beside with blocks := by simp [beside.blocks] },
        trivial⟩

theorem closingName_steady (name : String) :
    Steady numbers stop other (closingName name) fun _ => True := by
  intro bound
  apply Tracks.current
  · intro closing _
    split
    · split
      · exact Tracks.advance fun few _ => Tracks.pure trivial
      · exact Tracks.refuse
    · exact Tracks.pure trivial
  · apply Tracks.ofFork
    intro fork
    rw [if_neg (fork.stop_ne (by decide)), if_neg (fork.other_ne (by decide))]
    exact Tracks.pure trivial

section

variable {whole : Parser Expr} (steady : Steady numbers stop other whole (Expr.Numbers numbers))

section

include steady

theorem output_tracks {token : Token} :
    Tracks numbers stop other [token] bound 1 (output whole) (output whole)
      (Node.Numbers numbers) := by
  apply Tracks.advance
  intro few _
  apply (steady few).bind
  intro expr good
  exact Tracks.expect (by decide) fun _ _ _ => Tracks.position fun _ => Tracks.pure good

theorem binding_tracks {token keyword : Token} :
    Tracks numbers stop other [token] bound 0 (binding whole keyword) (binding whole keyword)
      (Node.Numbers numbers) := by
  apply Tracks.advance
  intro few _
  apply Tracks.expect (by decide)
  intro name few _
  apply Tracks.expect (by decide)
  intro _ few _
  apply (steady few).bind
  intro value good
  apply (endTag_steady few).bind
  exact fun _ _ => Tracks.position fun _ => Tracks.pure good

theorem bindingPair_steady :
    Steady numbers stop other (bindingPair whole) fun pair => pair.2.Numbers numbers := by
  intro bound
  apply Tracks.expect (by decide)
  intro name few _
  apply Tracks.expect (by decide)
  intro _ few _
  exact (steady few).bind fun _ good => Tracks.pure good

theorem bindingsRest_steady (budget : Nat) {before : List (String × Expr)}
    (all : ∀ pair ∈ before, pair.2.Numbers numbers) :
    Steady numbers stop other (bindingsRest whole budget before) fun pairs =>
      ∀ pair ∈ pairs, pair.2.Numbers numbers := by
  have more {last : String × Expr} {before : List (String × Expr)}
      (all : ∀ pair ∈ before, pair.2.Numbers numbers) (good : last.2.Numbers numbers) :
      ∀ pair ∈ before ++ [last], pair.2.Numbers numbers :=
    List.forall_mem_append.mpr ⟨all, List.forall_mem_singleton.mpr good⟩
  intro bound
  induction budget generalizing before bound with
  | zero => exact (bindingPair_steady steady bound).bind fun _ good => Tracks.pure (more all good)
  | succ budget ih =>
      rw [bindingsRest]
      apply (bindingPair_steady steady bound).bind
      intro pair good
      apply Tracks.accept (by decide)
      · exact fun few _ => ih (more all good) few
      · exact Tracks.pure (more all good)

theorem inclusion_tracks {token keyword : Token} :
    Tracks numbers stop other [token] bound 0 (inclusion whole keyword) (inclusion whole keyword)
      (Node.Numbers numbers) := by
  have included (name : Token) (bindings : Option (List (String × Expr))) (few : Nat)
      (all : ∀ pairs ∈ bindings, ∀ pair ∈ pairs, pair.2.Numbers numbers) :
      Tracks numbers stop other [] few 0
        (do
          endTag
          return .inclusion name.value bindings (← positionOf keyword))
        (do
          endTag
          return .inclusion name.value bindings (← positionOf keyword))
        (Node.Numbers numbers) :=
    (endTag_steady few).bind fun _ _ => Tracks.position fun _ => Tracks.pure all
  apply Tracks.advance
  intro few _
  apply Tracks.expect (by decide)
  intro name few _
  apply Tracks.keyword
  · intro word
    apply Tracks.advance
    intro few _
    apply Tracks.size
    intro few budget _ _
    apply (bindingsRest_steady steady budget (List.forall_mem_nil _) few).bind
    intro pairs all
    exact included name (some pairs) few (by simpa using all)
  · exact fun _ _ => included name none few (by simp)

end

theorem parent_tracks {openings : List Opening} {token keyword : Token} :
    Tracks numbers stop other [token] bound 0 (parent openings keyword) (parent openings keyword)
      (Node.Numbers numbers) := by
  rw [parent]
  split
  · apply Tracks.advance
    intro few _
    apply Tracks.expect (by decide)
    intro name few _
    apply (endTag_steady few).bind
    exact fun _ _ => Tracks.position fun _ => Tracks.pure trivial
  · exact Tracks.refuse

/-- What a body inside of another one gives. -/
abbrev ReadNumbers (numbers : Number → Prop) (read : List Node × Token) : Prop :=
  BodyNumbers numbers read.1

variable {nested : BodyParser} (bodies : ∀ enclosure keyword terminators, terminators ≠ [] →
  Steady numbers stop other (nested enclosure keyword terminators) (ReadNumbers numbers))

include bodies

theorem otherwise_steady (enclosure : Enclosure) (keyword terminator : Token) (endWord : String) :
    Steady numbers stop other (otherwise (nested enclosure keyword) terminator endWord)
      (OptionEvery (fun _ => True) (Expr.Numbers numbers)) := by
  intro bound
  rw [otherwise]
  split
  · apply (directive_steady _ bound).bind
    intro _ _
    apply (endTag_steady _).bind
    intro _ _
    apply (bodies enclosure keyword _ (by simp) _).bind
    exact fun read good => Tracks.pure good
  · exact Tracks.pure trivial

theorem block_tracks {token keyword : Token} :
    Tracks numbers stop other [token] bound 0 (block nested keyword) (block nested keyword)
      (Node.Numbers numbers) := by
  apply Tracks.advance
  intro few _
  apply Tracks.expect (by decide)
  intro name few _
  apply (endTag_steady few).bind
  intro _ _
  apply (openBlock_steady name _).bind
  intro _ _
  apply (bodies .block keyword _ (by simp) _).bind
  intro read good
  apply (directive_steady _ _).bind
  intro _ _
  apply (closingName_steady _ _).bind
  intro _ _
  apply (endTag_steady _).bind
  exact fun _ _ => Tracks.position fun _ => Tracks.pure good

include steady

theorem branches_steady (enclosure : Enclosure) (keyword : Token) (budget : Nat)
    {terminator : Token} {before : List Branch}
    (all : BranchesEvery (fun _ => True) (Expr.Numbers numbers) before) :
    Steady numbers stop other (branches whole (nested enclosure keyword) budget terminator before)
      fun read => BranchesEvery (fun _ => True) (Expr.Numbers numbers) read.1 := by
  intro bound
  induction budget generalizing terminator before bound with
  | zero => exact Tracks.pure all
  | succ budget ih =>
      rw [branches]
      split
      · apply (directive_steady _ bound).bind
        intro word _
        apply (steady _).bind
        intro test good
        apply (endTag_steady _).bind
        intro _ _
        apply (bodies enclosure keyword _ (by simp) _).bind
        intro read inner
        apply Tracks.position
        intro position
        have more : BranchesEvery (fun _ => True) (Expr.Numbers numbers)
            (before ++ [.mk test read.1 position]) := by
          rw [branchesEvery_iff, List.forall_mem_append, List.forall_mem_singleton]
          exact ⟨branchesEvery_iff.mp all, good, inner⟩
        exact ih more _
      · exact Tracks.pure all

theorem condition_tracks {token keyword : Token} :
    Tracks numbers stop other [token] bound 0 (condition whole nested keyword)
      (condition whole nested keyword) (Node.Numbers numbers) := by
  apply Tracks.advance
  intro few _
  apply (steady few).bind
  intro test good
  apply (endTag_steady _).bind
  intro _ _
  apply (bodies .condition keyword _ (by simp) _).bind
  intro read inner
  apply Tracks.size
  intro few budget _ _
  apply (branches_steady steady bodies .condition keyword budget (by trivial) few).bind
  intro further all
  apply (otherwise_steady bodies .condition keyword _ _ _).bind
  intro rest last
  apply (directive_steady _ _).bind
  intro _ _
  apply (endTag_steady _).bind
  exact fun _ _ => Tracks.position fun _ => Tracks.pure ⟨good, inner, all, last⟩

theorem loop_tracks {token keyword : Token} :
    Tracks numbers stop other [token] bound 0 (loop whole nested keyword)
      (loop whole nested keyword) (Node.Numbers numbers) := by
  apply Tracks.advance
  intro few _
  apply (loopTargets_steady few).bind
  intro targets _
  apply Tracks.keyword
  · intro word
    apply Tracks.advance
    intro few _
    apply (steady few).bind
    intro iterable good
    apply (endTag_steady _).bind
    intro _ _
    apply (bodies .loop keyword _ (by simp) _).bind
    intro read inner
    apply (otherwise_steady bodies .loop keyword _ _ _).bind
    intro rest last
    apply (directive_steady _ _).bind
    intro _ _
    apply (endTag_steady _).bind
    exact fun _ _ => Tracks.position fun _ => Tracks.pure ⟨good, inner, last⟩
  · exact fun _ _ => Tracks.unexpected

theorem statement_tracks {token : Token} (openings : List Opening) :
    Tracks numbers stop other [token] bound 1 (statement whole nested openings)
      (statement whole nested openings) (Node.Numbers numbers) := by
  apply Tracks.advance
  intro few _
  apply Tracks.current
  · intro keyword _
    split
    · exact Tracks.refuse
    · split
      · exact Tracks.unexpected
      · split
        · exact condition_tracks steady bodies
        · exact loop_tracks steady bodies
        · exact binding_tracks steady
        · exact block_tracks bodies
        · exact parent_tracks
        · exact inclusion_tracks steady
        · split <;> exact Tracks.refuse
  · apply Tracks.ofFork
    intro fork
    rw [if_neg (fork.other_ne (by decide)), if_pos (fork.other_ne (by decide))]
    exact Tracks.unexpected

end

theorem appendText_numbers {content : String} {position : Option Position} {before : List Node}
    (all : BodyNumbers numbers before) : BodyNumbers numbers (appendText content position before) := by
  unfold appendText
  split
  case h_1 first rest => exact ⟨trivial, all.2⟩
  case h_2 => exact ⟨trivial, all⟩

theorem bodyNumbers_reverse {body : List Node} (all : BodyNumbers numbers body) :
    BodyNumbers numbers body.reverse :=
  bodyEvery_iff.mpr fun node member => bodyEvery_iff.mp all node (List.mem_reverse.mp member)

/-- What a body gives; one that is read up to the end of the tokens leaves no room for a fork. -/
structure ReadsNumbers (numbers : Number → Prop) (stop : Token) (terminators : List String)
    (read : List Node × Token) : Prop where
  numbers : BodyNumbers numbers read.1
  whole : terminators = [] → stop.kind = .endOfInput

theorem finish_tracks {last : Token} (ends : last.kind = .endOfInput) (openings : List Opening)
    {terminators : List String} {before : List Node} (all : BodyNumbers numbers before) :
    Tracks numbers last last [] 0 0 (finish openings before) (finish openings before)
      (ReadsNumbers numbers last terminators) := by
  unfold finish
  split
  · apply Tracks.current
    · exact fun token _ => Tracks.known fun counted _ => absurd counted (Nat.lt_irrefl 0)
    · exact Tracks.pure ⟨bodyNumbers_reverse all, fun _ => ends⟩
  · exact Tracks.refuse

/-- Every turn passes a token, so the turns are enough to come to the fork. -/
theorem nodes_tracks {whole : Parser Expr} {nested : BodyParser}
    (steady : Steady numbers stop other whole (Expr.Numbers numbers))
    (bodies : ∀ enclosure keyword terminators, terminators ≠ [] →
      Steady numbers stop other (nested enclosure keyword terminators) (ReadNumbers numbers))
    (openings : List Opening) (terminators : List String) {budget : Nat} {before : List Node}
    (all : BodyNumbers numbers before) (enough : bound < budget) :
    Tracks numbers stop other [] bound 0 (nodes whole nested openings terminators budget before)
      (nodes whole nested openings terminators budget before)
      (ReadsNumbers numbers stop terminators) := by
  induction budget generalizing before bound with
  | zero => cases enough
  | succ budget ih =>
      have adds {node : Node} (good : node.Numbers numbers) (counted : 0 < bound) :
          Tracks numbers stop other [] (bound - 1) 0
            (nodes whole nested openings terminators budget (node :: before))
            (nodes whole nested openings terminators budget (node :: before))
            (ReadsNumbers numbers stop terminators) :=
        ih ⟨good, all⟩ (by omega)
      have directed (token : Token) (counted : 0 < bound) :
          Tracks numbers stop other [token] bound 0
            (statement whole nested openings >>= fun node =>
              nodes whole nested openings terminators budget (node :: before))
            (statement whole nested openings >>= fun node =>
              nodes whole nested openings terminators budget (node :: before))
            (ReadsNumbers numbers stop terminators) :=
        (statement_tracks steady bodies openings).bind fun node good => adds good counted
      rw [nodes]
      apply Tracks.current
      · intro token _
        apply Tracks.known
        intro counted noEnd
        cases kind : token.kind with
        | endOfInput => exact absurd kind noEnd
        | text =>
            apply Tracks.advance
            intro few _
            apply Tracks.position
            intro position
            exact ih (appendText_numbers all) (by omega)
        | expressionOpen => exact (output_tracks steady).bind fun node good => adds good counted
        | blockOpen =>
            apply Tracks.next
            · intro keyword
              split
              case isTrue ends =>
                have listed : terminators ≠ [] := by
                  rintro rfl
                  simp at ends
                exact Tracks.pure ⟨bodyNumbers_reverse all, fun none => absurd none listed⟩
              case isFalse => exact (directed token counted).longer (by simp)
            · apply Tracks.ofFork
              intro fork
              have noKeyword := fork.stop_ne (by decide : TokenKind.keyword.isShared)
              have noKeywordOther := fork.other_ne (by decide : TokenKind.keyword.isShared)
              simp only [noKeyword, noKeywordOther, decide_false, Bool.false_and,
                Bool.false_eq_true, if_false]
              exact directed token counted
        | _ => exact Tracks.unexpected
      · apply Tracks.atFork
        · rintro rfl ends
          simp only [ends]
          exact finish_tracks ends openings all
        · intro large number
          simp only [large.kind, number]
          exact Tracks.unexpected

theorem bodyAt_steady (limit : Int) (depth : Nat) (openings : List Opening)
    (terminators : List String) :
    Steady numbers stop other (bodyAt limit depth openings terminators)
      (ReadsNumbers numbers stop terminators) := by
  induction depth generalizing openings terminators with
  | zero =>
      intro bound
      apply Tracks.size
      intro few budget _ enough
      exact nodes_tracks (expression_steady limit) (fun _ _ _ _ _ => Tracks.refuse) openings
        terminators (by trivial) enough
  | succ depth ih =>
      intro bound
      apply Tracks.size
      intro few budget _ enough
      refine nodes_tracks (expression_steady limit) ?_ openings terminators (by trivial) enough
      exact fun enclosure keyword words _ bound =>
        (ih ((enclosure, keyword) :: openings) words bound).mono fun _ read => read.numbers

end Grammar

end Templating
