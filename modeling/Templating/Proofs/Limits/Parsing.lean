import Templating.Grammar.Body
import Templating.Proofs.Limits.Curtails

/-!
The limit on nesting changes nothing about parsing but that it ends it early: what is parsed under a
limit is parsed alike under every greater one.
-/

namespace Templating

namespace Grammar

open Templating.Parser

/-- The limit is exceeded. -/
def IsTooDeep (limit : Int) (refusal : Refusal) : Prop :=
  refusal.1 = .tooDeep limit

section

variable {cut : Refusal → Prop} {first second : Parser Expr}
  (curtails : Curtails cut first second)

include curtails

theorem binaryRest_curtails (operator? : Token → Option BinaryOperator) (budget : Nat)
    (left : Expr) :
    Curtails cut (binaryRest operator? first budget left)
      (binaryRest operator? second budget left) := by
  induction budget generalizing left with
  | zero => exact .refl _
  | succ budget ih =>
      rw [binaryRest, binaryRest]
      refine .after _ fun token => ?_
      cases operator? token with
      | none => exact .refl _
      | some operator =>
          exact .after _ fun _ => curtails.bind fun right => .after _ fun _ => ih _

theorem binaryLevel_curtails (operator? : Token → Option BinaryOperator) :
    Curtails cut (binaryLevel operator? first) (binaryLevel operator? second) :=
  curtails.bind fun left => .after _ fun size => binaryRest_curtails curtails operator? size left

theorem disjunction_curtails : Curtails cut (disjunction first) (disjunction second) :=
  binaryLevel_curtails (binaryLevel_curtails (binaryLevel_curtails (binaryLevel_curtails
    (binaryLevel_curtails curtails _) _) _) _) _

theorem itemsRest_curtails (budget : Nat) (items : List Expr) :
    Curtails cut (itemsRest first budget items) (itemsRest second budget items) := by
  induction budget generalizing items with
  | zero => exact curtails.bind fun _ => .refl _
  | succ budget ih =>
      rw [itemsRest, itemsRest]
      refine curtails.bind fun item => .after _ fun closed => ?_
      exact .ite (.refl _) (.after _ fun _ => ih _)

theorem listItems_curtails : Curtails cut (listItems first) (listItems second) :=
  .after _ fun _ => .ite (.refl _) (.after _ fun size => itemsRest_curtails curtails size [])

theorem primary_curtails : Curtails cut (primary first) (primary second) := by
  refine .after _ fun token => ?_
  cases token.kind with
  | leftBracket =>
      exact .after _ fun _ => (listItems_curtails curtails).bind fun items => .refl _
  | leftParen => exact .after _ fun _ => curtails.bind fun inside => .refl _
  | _ => exact .refl _

theorem argument_curtails (before : Arguments) :
    Curtails cut (argument first before) (argument second before) := by
  refine .after _ fun token => .after _ fun following => ?_
  refine .ite (.ite (.refl _) ?_) (.ite (.refl _) ?_)
  · exact .after _ fun _ => .after _ fun _ => curtails.bind fun value => .refl _
  · exact curtails.bind fun value => .refl _

theorem argumentsRest_curtails (budget : Nat) (before : Arguments) :
    Curtails cut (argumentsRest first budget before) (argumentsRest second budget before) := by
  induction budget generalizing before with
  | zero => exact argument_curtails curtails before
  | succ budget ih =>
      rw [argumentsRest, argumentsRest]
      refine (argument_curtails curtails before).bind fun arguments => .after _ fun closed => ?_
      exact .ite (.refl _) (.after _ fun _ => ih _)

theorem closedArguments_curtails : Curtails cut (closedArguments first) (closedArguments second) :=
  .after _ fun _ => .ite (.refl _) (.after _ fun size => argumentsRest_curtails curtails size {})

theorem bareArguments_curtails (budget : Nat) (before : Arguments) :
    Curtails cut (bareArguments first budget before) (bareArguments second budget before) := by
  induction budget generalizing before with
  | zero => exact .refl _
  | succ budget ih =>
      rw [bareArguments, bareArguments]
      refine .after _ fun token => .ite ?_ (.refl _)
      exact (argument_curtails curtails before).bind fun arguments => ih arguments

theorem filtersRest_curtails (budget : Nat) (base : Expr) :
    Curtails cut (filtersRest first budget base) (filtersRest second budget base) := by
  induction budget generalizing base with
  | zero => exact .refl _
  | succ budget ih =>
      rw [filtersRest, filtersRest]
      refine .after _ fun piped => .ite (.after _ fun name => .after _ fun opened => ?_) (.refl _)
      have applies : ∀ arguments : Arguments, Curtails cut
          (positionOf name >>= fun position => filtersRest first budget
            (.filter base name.value arguments.positional arguments.named position))
          (positionOf name >>= fun position => filtersRest second budget
            (.filter base name.value arguments.positional arguments.named position)) :=
        fun arguments => .after _ fun position => ih _
      refine .ite ?_ ?_
      · exact (closedArguments_curtails curtails).bind applies
      · exact .after _ fun size =>
          (bareArguments_curtails (primary_curtails curtails) size {}).bind applies

theorem filtered_curtails {unary other : Parser Expr} (operand : Curtails cut unary other) :
    Curtails cut (filtered unary first) (filtered other second) :=
  (disjunction_curtails operand).bind fun base =>
    .after _ fun size => filtersRest_curtails curtails size base

theorem signed_curtails {deeper other : Token → Parser Expr}
    (operand : ∀ token, Curtails cut (deeper token) (other token)) :
    Curtails cut (signed deeper first) (signed other second) := by
  refine .after _ fun token => ?_
  cases unaryOperator? token with
  | none => exact curtails
  | some operator => exact .after _ fun _ => (operand token).bind fun value => .refl _

end

/-- What nests no deeper than one limit is read alike under a greater one. -/
theorem wholeAt_curtails (limit further : Int) {depth deeper : Nat} (within : depth ≤ deeper) :
    Curtails (IsTooDeep limit) (wholeAt limit depth) (wholeAt further deeper) ∧
      Curtails (IsTooDeep limit) (unaryAt limit depth) (unaryAt further deeper) := by
  have here : ∀ other, Curtails (IsTooDeep limit) (tooDeepHere limit) other :=
    fun _ _ => .error rfl
  induction depth generalizing deeper with
  | zero =>
      have sign : ∀ token other, Curtails (IsTooDeep limit) (tooDeep limit token) other :=
        fun _ _ => .refuse rfl
      refine ⟨here _, ?_⟩
      cases deeper with
      | zero => exact signed_curtails (primary_curtails (here _)) fun token => sign token _
      | succ deeper => exact signed_curtails (primary_curtails (here _)) fun token => sign token _
  | succ depth ih =>
      cases deeper with
      | zero => exact absurd within (Nat.not_succ_le_zero depth)
      | succ deeper =>
          obtain ⟨whole, unary⟩ := ih (Nat.le_of_succ_le_succ within)
          have value := filtered_curtails whole unary
          exact ⟨value, signed_curtails (primary_curtails value) fun _ => unary⟩

theorem expression_curtails {limit further : Int} (within : limit ≤ further) :
    Curtails (IsTooDeep limit) (expression limit) (expression further) :=
  (wholeAt_curtails limit further (Int.toNat_le_toNat within)).1

section

variable {cut : Refusal → Prop} {whole otherWhole : Parser Expr}
  (curtails : Curtails cut whole otherWhole)

section

include curtails

theorem output_curtails : Curtails cut (output whole) (output otherWhole) :=
  .after _ fun _ => curtails.bind fun _ => .refl _

theorem binding_curtails (keyword : Token) :
    Curtails cut (binding whole keyword) (binding otherWhole keyword) :=
  .after _ fun _ => .after _ fun _ => .after _ fun _ => curtails.bind fun _ => .refl _

theorem bindingPair_curtails : Curtails cut (bindingPair whole) (bindingPair otherWhole) :=
  .after _ fun _ => .after _ fun _ => curtails.bind fun _ => .refl _

theorem bindingsRest_curtails (budget : Nat) (before : List (String × Expr)) :
    Curtails cut (bindingsRest whole budget before) (bindingsRest otherWhole budget before) := by
  induction budget generalizing before with
  | zero => exact (bindingPair_curtails curtails).bind fun _ => .refl _
  | succ budget ih =>
      rw [bindingsRest, bindingsRest]
      refine (bindingPair_curtails curtails).bind fun pair => .after _ fun more => ?_
      exact .ite (ih _) (.refl _)

theorem inclusion_curtails (keyword : Token) :
    Curtails cut (inclusion whole keyword) (inclusion otherWhole keyword) := by
  refine .after _ fun _ => .after _ fun name => .after _ fun word => .ite ?_ (.refl _)
  refine .after _ fun _ => .after _ fun size => ?_
  exact (bindingsRest_curtails curtails size []).bind fun pairs => .refl _

end

section

variable {body otherBody : List String → Parser (List Node × Token)}
  (bodies : ∀ words, Curtails cut (body words) (otherBody words))

include bodies

theorem otherwise_curtails (terminator : Token) (endWord : String) :
    Curtails cut (otherwise body terminator endWord) (otherwise otherBody terminator endWord) :=
  .ite (.after _ fun _ => .after _ fun _ => (bodies _).bind fun _ => .refl _) (.refl _)

include curtails

theorem branches_curtails (budget : Nat) (terminator : Token) (before : List Branch) :
    Curtails cut (branches whole body budget terminator before)
      (branches otherWhole otherBody budget terminator before) := by
  induction budget generalizing terminator before with
  | zero => exact .refl _
  | succ budget ih =>
      rw [branches, branches]
      refine .ite (.after _ fun keyword => curtails.bind fun test => ?_) (.refl _)
      refine .after _ fun _ => (bodies _).bind fun read => .after _ fun position => ?_
      exact ih _ _

end

section

variable {nested otherNested : BodyParser}
  (bodies : ∀ enclosure keyword words,
    Curtails cut (nested enclosure keyword words) (otherNested enclosure keyword words))

include bodies

theorem block_curtails (keyword : Token) :
    Curtails cut (block nested keyword) (block otherNested keyword) :=
  .after _ fun _ => .after _ fun _ => .after _ fun _ => .after _ fun _ =>
    (bodies _ _ _).bind fun _ => .refl _

include curtails

theorem condition_curtails (keyword : Token) :
    Curtails cut (condition whole nested keyword) (condition otherWhole otherNested keyword) := by
  refine .after _ fun _ => curtails.bind fun test => .after _ fun _ => ?_
  refine (bodies _ _ _).bind fun read => .after _ fun size => ?_
  refine (branches_curtails curtails (bodies _ _) size _ _).bind fun further => ?_
  exact (otherwise_curtails (bodies _ _) _ _).bind fun rest => .refl _

theorem loop_curtails (keyword : Token) :
    Curtails cut (loop whole nested keyword) (loop otherWhole otherNested keyword) := by
  refine .after _ fun _ => .after _ fun targets => .after _ fun word => .ite ?_ (.refl _)
  refine .after _ fun _ => curtails.bind fun iterable => .after _ fun _ => ?_
  refine (bodies _ _ _).bind fun read => ?_
  exact (otherwise_curtails (bodies _ _) _ _).bind fun rest => .refl _

theorem statement_curtails (openings : List Opening) :
    Curtails cut (statement whole nested openings) (statement otherWhole otherNested openings) := by
  refine .after _ fun _ => .after _ fun keyword => .ite (.refl _) (.ite (.refl _) ?_)
  split
  · exact condition_curtails curtails bodies keyword
  · exact loop_curtails curtails bodies keyword
  · exact binding_curtails curtails keyword
  · exact block_curtails bodies keyword
  · exact .refl _
  · exact inclusion_curtails curtails keyword
  · exact .refl _

theorem nodes_curtails (openings : List Opening) (terminators : List String) (budget : Nat)
    (before : List Node) :
    Curtails cut (nodes whole nested openings terminators budget before)
      (nodes otherWhole otherNested openings terminators budget before) := by
  induction budget generalizing before with
  | zero => exact .refl _
  | succ budget ih =>
      rw [nodes, nodes]
      refine .after _ fun token => ?_
      cases token.kind with
      | text => exact .after _ fun _ => .after _ fun _ => ih _
      | expressionOpen => exact (output_curtails curtails).bind fun node => ih _
      | blockOpen =>
          refine .after _ fun keyword => .ite (.refl _) ?_
          exact (statement_curtails curtails bodies openings).bind fun node => ih _
      | _ => exact .refl _

end

end

/-- Bodies that nest no deeper than one limit are read alike under a greater one. -/
theorem bodyAt_curtails {limit further : Int} (within : limit ≤ further) {depth deeper : Nat}
    (room : depth ≤ deeper) (openings : List Opening) (terminators : List String) :
    Curtails (IsTooDeep limit) (bodyAt limit depth openings terminators)
      (bodyAt further deeper openings terminators) := by
  have whole := expression_curtails within
  induction depth generalizing deeper openings terminators with
  | zero =>
      cases deeper with
      | zero =>
          exact .after _ fun size => nodes_curtails whole (fun _ _ _ => .refuse rfl) _ _ size []
      | succ deeper =>
          exact .after _ fun size => nodes_curtails whole (fun _ _ _ => .refuse rfl) _ _ size []
  | succ depth ih =>
      cases deeper with
      | zero => exact absurd room (Nat.not_succ_le_zero depth)
      | succ deeper =>
          exact .after _ fun size => nodes_curtails whole
            (fun _ _ _ => ih (Nat.le_of_succ_le_succ room) _ _) _ _ size []

end Grammar

namespace Template

open Outcome

/-- The fault that a limit on nesting brings about. -/
def IsTooDeep (limit : Int) (fault : Fault) : Prop :=
  fault.cause = .grammar (.tooDeep limit)

theorem ofTokens_curtails {limit further : Int} (within : limit ≤ further) (name source : String)
    (tokens : List Token) :
    Curtails (IsTooDeep limit) (ofTokens limit name source tokens)
      (ofTokens further name source tokens) := by
  have parses := Grammar.bodyAt_curtails within (Int.toNat_le_toNat within) [] []
    (Cursor.ofTokens name tokens)
  rw [ofTokens, ofTokens]
  rcases parses with ⟨refusal, refuses, deep⟩ | same
  · rw [refuses]
    exact .error (congrArg Cause.grammar deep)
  · rw [same]
    exact .refl _

/-- A text compiles under a limit as under a greater one, unless it nests too deep. -/
theorem compile_curtails (delimiters : Delimiters) {limit further : Int} (within : limit ≤ further)
    (name source : String) :
    Curtails (IsTooDeep limit) (compile delimiters limit name source)
      (compile delimiters further name source) :=
  (Curtails.refl _).bind fun tokens => ofTokens_curtails within name source tokens

end Template

end Templating
