import Templating.Proofs.Grammar.EchoesExpression
import Templating.Proofs.Grammar.ParsedTemplate
import Templating.Proofs.Nesting.Bodies

/-!
Two runs over a template take the same steps, but that one passes a text in two turns where the other
has it whole. Text extends the text before it, so they come to the same bodies, places aside.
-/

namespace Templating

open Grammar Node
open Outcome (Alike)

namespace Node

/-- The nodes are the same, places aside. -/
def Like (one two : Node) : Prop :=
  one.unplaced = two.unplaced

/-- The bodies are the same, places aside. -/
def BodyLike (ones twos : List Node) : Prop :=
  unplacedBody ones = unplacedBody twos

variable {ones twos : List Node}

theorem BodyLike.cons {one two : Node} (like : one.Like two) (all : BodyLike ones twos) :
    BodyLike (one :: ones) (two :: twos) := by
  simp only [BodyLike, Like, unplacedBody] at all like ⊢
  rw [like, all]

theorem BodyLike.reverse (all : BodyLike ones twos) : BodyLike ones.reverse twos.reverse := by
  simp only [BodyLike, unplacedBody_eq_map, List.map_reverse] at all ⊢
  rw [all]

theorem unplacedBody_appendText (content : String) (position : Option Position)
    (before : List Node) :
    unplacedBody (appendText content position before) =
      appendText content none (unplacedBody before) := by
  cases before with
  | nil => rfl
  | cons node before => cases node <;> rfl

/-- Text that is added in two steps leaves no seam. -/
theorem appendText_appendText (first second : String) (place position : Option Position)
    (before : List Node) :
    appendText second position (appendText first place before) =
      appendText (first ++ second) place before := by
  cases before with
  | nil => rfl
  | cons node before =>
      cases node with
      | text content place => simp only [appendText, String.append_assoc]
      | _ => rfl

theorem BodyLike.appendText (all : BodyLike ones twos) (content : String)
    (place again : Option Position) :
    BodyLike (appendText content place ones) (Grammar.appendText content again twos) := by
  simp only [BodyLike, unplacedBody_appendText] at all ⊢
  rw [all]

end Node

namespace Grammar

open Templating.Parser

variable {α β : Type} {coming : List (Token × Token)} {bound limit least : Nat} {one two : Token}

theorem passed_of_keyword {word : String} (reads : one.isKeyword word = true) : one.kind.IsPassed := by
  simp only [Token.isKeyword, Bool.and_eq_true, beq_iff_eq] at reads
  rw [reads.1]
  decide

theorem endTag_mirrors : Faithful endTag fun _ _ => True := by
  intro bound limit
  rw [endTag]
  exact Mirrors.expect (by decide) fun _ _ _ _ => Mirrors.pure trivial

theorem directive_mirrors (word : String) (bound limit : Nat) :
    Mirrors [] bound limit 1 (directive word) (directive word) Token.Similar := by
  rw [directive]
  refine Mirrors.expect (by decide) fun _ _ _ _ => ?_
  refine Mirrors.current fun one two similar => ?_
  rw [← similar.isKeyword]
  split
  case isTrue reads => exact (Mirrors.pass (passed_of_keyword reads) similar).atLeast (Nat.zero_le _)
  case isFalse => exact Mirrors.unexpected

theorem loopTargets_mirrors : Faithful loopTargets Eq := by
  intro bound limit
  rw [loopTargets]
  refine Mirrors.expect (by decide) fun first again similar kind => ?_
  rw [← similar.value (by simp [kind])]
  refine Mirrors.accept (by decide) ?_ (Mirrors.pure rfl)
  refine Mirrors.expect (by decide) fun second other alike kind => ?_
  rw [← alike.value (by simp [kind])]
  split
  · exact Mirrors.unexpected
  · exact Mirrors.pure rfl

theorem lookup_eq_none_iff {blocks : List (String × Mark)} {name : String} :
    blocks.lookup name = none ↔ name ∉ blocks.map (·.1) := by
  refine ⟨fun fresh member => ?_, lookup_eq_none⟩
  obtain ⟨block, inside, rfl⟩ := List.mem_map.mp member
  simpa using List.lookup_eq_none_iff.mp fresh block inside

theorem openBlock_mirrors (same : one.value = two.value) :
    Mirrors coming bound limit 0 (openBlock one) (openBlock two) fun _ _ => True := by
  intro before after mirrored _ _ _ _
  have names : before.blocks.map (·.1) = after.blocks.map (·.1) := mirrored.opened
  cases found : before.blocks.lookup one.value with
  | none =>
      have fresh : after.blocks.lookup two.value = none := by
        rwa [lookup_eq_none_iff, ← names, ← same, ← lookup_eq_none_iff]
      rw [openBlock_fresh found, openBlock_fresh fresh]
      have opened := congrArg₂ List.cons same mirrored.opened
      exact .ok ⟨trivial, ⟨mirrored.rest, opened, mirrored.within, mirrored.withinToo⟩,
        Nat.le_refl _, Nat.le_refl _⟩
  | some first =>
      cases again : after.blocks.lookup two.value with
      | none =>
          rw [lookup_eq_none_iff, ← names, ← same, ← lookup_eq_none_iff, found] at again
          cases again
      | some other =>
          rw [openBlock_taken found, openBlock_taken again]
          exact .error trivial

theorem closingName_mirrors (name : String) : Faithful (closingName name) fun _ _ => True := by
  intro bound limit
  rw [closingName]
  refine Mirrors.current fun one two similar => ?_
  rw [← similar.kind]
  split
  case isTrue kind =>
    rw [← similar.value (by simp [kind])]
    split
    · exact Mirrors.advance (by rw [kind]; decide) (Mirrors.pure trivial)
    · exact Mirrors.refuse
  case isFalse => exact Mirrors.pure trivial

section

variable {whole : Parser Expr} (faithful : Faithful whole Expr.Like)

section

include faithful

theorem output_mirrors (passed : one.kind.IsPassed) :
    Mirrors ((one, two) :: coming) bound limit 1 (output whole) (output whole) Node.Like := by
  rw [output]
  refine Mirrors.advance passed ((faithful _ _).anywhere.bind fun expr other like => ?_)
  refine Mirrors.expect (by decide) fun _ _ _ _ => Mirrors.position fun _ _ => ?_
  exact Mirrors.pure (by simp only [Node.Like, unplaced, like.eq])

theorem binding_mirrors (passed : one.kind.IsPassed) (keyword again : Token) :
    Mirrors ((one, two) :: coming) bound limit 0 (binding whole keyword) (binding whole again)
      Node.Like := by
  rw [binding, binding]
  refine Mirrors.advance passed ?_
  refine Mirrors.expect (by decide) fun name other similar kind => ?_
  refine Mirrors.expect (by decide) fun _ _ _ _ => ?_
  refine (faithful _ _).bind fun value another like => ?_
  refine (endTag_mirrors _ _).bind fun _ _ _ => Mirrors.position fun _ _ => Mirrors.pure ?_
  simp only [Node.Like, unplaced, like.eq, similar.value (by simp [kind] : name.kind ≠ .text)]

theorem bindingPair_mirrors (bound limit : Nat) :
    Mirrors [] bound limit 1 (bindingPair whole) (bindingPair whole) fun pair other =>
      pair.1 = other.1 ∧ pair.2.Like other.2 := by
  rw [bindingPair]
  refine Mirrors.expect (by decide) fun name other similar kind => ?_
  refine Mirrors.expect (by decide) fun _ _ _ _ => ?_
  refine (faithful _ _).bind fun value another like => Mirrors.pure ?_
  exact ⟨similar.value (by simp [kind]), like⟩

theorem bindingsRest_mirrors (turns again : Nat) {before others : List (String × Expr)}
    (like : Expr.NamedLike before others) :
    Mirrors [] turns again 0 (bindingsRest whole turns before) (bindingsRest whole again others)
      Expr.NamedLike := by
  refine Mirrors.loop (fun turns again ih before others like => ?_) turns again _ _ like
  rw [bindingsRest, bindingsRest]
  refine (bindingPair_mirrors faithful _ _).bind fun pair other alike => ?_
  have more : Expr.NamedLike (before ++ [pair]) (others ++ [other]) := by
    obtain ⟨name, value⟩ := pair
    obtain ⟨_, another⟩ := other
    obtain ⟨rfl, alike⟩ := alike
    exact like.snoc name alike
  refine Mirrors.accept (by decide) ?_ (Mirrors.pure more)
  exact (ih _ _ more).within (by omega) (by omega)

theorem inclusion_mirrors (passed : one.kind.IsPassed) (keyword again : Token) :
    Mirrors ((one, two) :: coming) bound limit 0 (inclusion whole keyword) (inclusion whole again)
      Node.Like := by
  rw [inclusion, inclusion]
  refine Mirrors.advance passed ?_
  refine Mirrors.expect (by decide) fun name other similar kind => ?_
  have included (bound limit : Nat) (bindings others : Option (List (String × Expr)))
      (like : bindings.map Expr.unplacedNamed = others.map Expr.unplacedNamed) :
      Mirrors [] bound limit 0
        (do
          endTag
          return .inclusion name.value bindings (← positionOf keyword))
        (do
          endTag
          return .inclusion other.value others (← positionOf again)) Node.Like := by
    refine (endTag_mirrors _ _).bind fun _ _ _ => Mirrors.position fun _ _ => Mirrors.pure ?_
    simp only [Node.Like, unplaced, like, similar.value (by simp [kind] : name.kind ≠ .text)]
  refine Mirrors.current fun word _ alike => ?_
  rw [← alike.isKeyword]
  split
  case isTrue reads =>
    refine Mirrors.advance (passed_of_keyword reads) (Mirrors.turns fun turns again => ?_)
    refine (bindingsRest_mirrors faithful turns again rfl).bind fun pairs others like => ?_
    refine included _ _ (some pairs) (some others) ?_
    simp only [Option.map_some, Expr.unplacedNamed_eq_map]
    exact congrArg some like
  case isFalse => exact (included _ _ none none rfl).anywhere

end

theorem parent_mirrors (passed : one.kind.IsPassed) {openings others : List Opening}
    (same : openings.isEmpty = others.isEmpty) (keyword again : Token) :
    Mirrors ((one, two) :: coming) bound limit 0 (parent openings keyword) (parent others again)
      Node.Like := by
  rw [parent, parent, ← same]
  split
  · refine Mirrors.advance passed ?_
    refine Mirrors.expect (by decide) fun name other similar kind => ?_
    refine (endTag_mirrors _ _).bind fun _ _ _ => Mirrors.position fun _ _ => Mirrors.pure ?_
    simp only [Node.Like, unplaced, similar.value (by simp [kind] : name.kind ≠ .text)]
  · exact Mirrors.refuse

/-- What is read of a body is the same, places aside, and ends with the same word. -/
structure ReadLike (read again : List Node × Token) : Prop where
  body : BodyLike read.1 again.1
  word : read.2.value = again.2.value

/-- The branches are the same, places aside, and the word that follows them is. -/
structure BranchesLike (read again : List Branch × Token) : Prop where
  branches : unplacedBranches read.1 = unplacedBranches again.1
  word : read.2.value = again.2.value

variable {nested others : BodyParser} {openings enclosing : List Opening} {words : List String}
  {before after : List Node}

theorem finish_mirrors (ends : one.kind ≠ .text) (similar : one.Similar two)
    (same : openings.isEmpty = enclosing.isEmpty) (like : BodyLike before after) :
    Mirrors ((one, two) :: coming) bound limit 0 (finish openings before) (finish enclosing after)
      ReadLike := by
  cases openings with
  | nil =>
      rw [List.isEmpty_iff.mp same.symm, finish, finish]
      exact Mirrors.known (Mirrors.pure ⟨like.reverse, similar.value ends⟩)
  | cons _ _ =>
      cases enclosing with
      | nil => cases same
      | cons _ _ => exact Mirrors.refuse

theorem nodes_text_first {cursor : Cursor} {token : Token} {tokens : List Token}
    (first : cursor.rest = token :: tokens) (kind : token.kind = .text) (openings : List Opening)
    (words : List String) (budget : Nat) (before : List Node) :
    nodes whole nested openings words (budget + 1) before cursor =
      nodes whole nested openings words budget
        (appendText token.value (some (token.position cursor.template)) before)
        (cursor.before tokens) := by
  rw [← Nesting.nodes_text kind, ← first]
  rfl

/-- A text that one run has in two pieces takes it two turns. -/
theorem nodes_text_mirrors (ih : ∀ {again : Nat} {before after : List Node}, BodyLike before after →
      Mirrors [] turns again 0 (nodes whole nested openings words turns before)
        (nodes whole others enclosing words again after) ReadLike)
    (like : BodyLike before after) {one two : Cursor} (mirrored : one.Mirrored two)
    (few : one.rest.length ≤ turns + 1) (fewToo : two.rest.length ≤ again + 1)
    (text : one.current.kind = .text) :
    Alike (fun _ _ => True) (Reached 0 ReadLike one two)
      (nodes whole nested openings words (turns + 1) before one)
      (nodes whole others enclosing words (again + 1) after two) := by
  obtain ⟨echoes, opened, within, withinToo⟩ := mirrored
  have continues {again : Nat} {ones twos : List Token} {before after : List Node}
      (rest : Echoes ones twos) (like : BodyLike before after) (less : ones.length < one.rest.length)
      (lessToo : twos.length < two.rest.length) (enough : twos.length ≤ again) :
      Alike (fun _ _ => True) (Reached 0 ReadLike one two)
        (nodes whole nested openings words turns before (one.before ones))
        (nodes whole others enclosing words again after (two.before twos)) := by
    have moved : (one.before ones).Mirrored (two.before twos) :=
      ⟨rest, opened, Nat.le_trans (Nat.le_of_lt less) within,
        Nat.le_trans (Nat.le_of_lt lessToo) withinToo⟩
    have few : ones.length ≤ turns := Nat.le_of_lt_succ (Nat.lt_of_lt_of_le less few)
    have read := ih like moved few enough List.nil_prefix List.nil_prefix
    exact read.mono fun _ _ reached => reached.earlier 1 less lessToo (Nat.zero_le _)
  generalize left : one.rest = ones at echoes
  generalize right : two.rest = twos at echoes
  cases echoes with
  | ends kind =>
      rw [Cursor.current, left, List.head?_cons, Option.getD_some, kind] at text
      cases text
  | @token token other ones twos _ same rest =>
      rw [Cursor.current, left, List.head?_cons, Option.getD_some] at text
      have kind : other.kind = .text := (congrArg Prod.fst same).symm.trans text
      rw [nodes_text_first left text, nodes_text_first right kind,
        show other.value = token.value from (congrArg Prod.snd same).symm]
      rw [right, List.length_cons] at fewToo
      exact continues rest (like.appendText _ _ _) (by simp [left]) (by simp [right])
        (Nat.le_of_succ_le_succ fewToo)
  | @seam _ first second ones twos wholly firstly secondly joined rest =>
      have shorter : twos.length < two.rest.length := by
        rw [right]
        exact Nat.lt_succ_of_le (Nat.le_succ _)
      rw [right, List.length_cons, List.length_cons] at fewToo
      cases again with
      | zero => omega
      | succ again =>
          have enough : twos.length ≤ again := by omega
          rw [nodes_text_first left wholly, nodes_text_first right firstly,
            Nesting.nodes_text secondly, joined, appendText_appendText]
          exact continues rest (like.appendText _ _ _) (by simp [left]) shorter enough

variable (bodies : ∀ enclosure keyword again words bound limit,
  Mirrors [] bound limit 0 (nested enclosure keyword words) (others enclosure again words) ReadLike)

include bodies

theorem otherwise_mirrors (enclosure : Enclosure) (keyword again : Token) {terminator other : Token}
    (word : terminator.value = other.value) (ending : String) (bound limit : Nat) :
    Mirrors [] bound limit 0 (otherwise (nested enclosure keyword) terminator ending)
      (otherwise (others enclosure again) other ending)
      fun rest another => unplacedOption rest = unplacedOption another := by
  rw [otherwise, otherwise, ← word]
  split
  · refine (directive_mirrors _ _ _).bind fun _ _ _ => ?_
    refine (endTag_mirrors _ _).bind fun _ _ _ => ?_
    refine (bodies _ _ _ _ _ _).bind fun read again like => Mirrors.pure ?_
    simp only [unplacedOption]
    exact congrArg some like.body
  · exact Mirrors.pure rfl

theorem block_mirrors (passed : one.kind.IsPassed) (keyword again : Token) :
    Mirrors ((one, two) :: coming) bound limit 0 (block nested keyword) (block others again)
      Node.Like := by
  rw [block, block]
  refine Mirrors.advance passed ?_
  refine Mirrors.expect (by decide) fun name other similar kind => ?_
  have same : name.value = other.value := similar.value (by simp [kind])
  refine (endTag_mirrors _ _).bind fun _ _ _ => ?_
  refine (openBlock_mirrors same).bind fun _ _ _ => ?_
  refine (bodies _ _ _ _ _ _).bind fun read again like => ?_
  refine (directive_mirrors _ _ _).bind fun _ _ _ => ?_
  rw [← same]
  refine (closingName_mirrors _ _ _).bind fun _ _ _ => ?_
  refine (endTag_mirrors _ _).bind fun _ _ _ => Mirrors.position fun _ _ => Mirrors.pure ?_
  simp only [Node.Like, unplaced]
  exact congrArg (Node.block name.value · none) like.body

include faithful

theorem branches_mirrors (enclosure : Enclosure) (keyword opener : Token) (turns again : Nat)
    {state after : List Branch × Token} (like : BranchesLike state after) :
    Mirrors [] turns again 0 (branches whole (nested enclosure keyword) turns state.2 state.1)
      (branches whole (others enclosure opener) again after.2 after.1) BranchesLike := by
  refine @Mirrors.loop _ BranchesLike _
    (fun turns state => branches whole (nested enclosure keyword) turns state.2 state.1)
    (fun turns state => branches whole (others enclosure opener) turns state.2 state.1)
    BranchesLike (fun turns again ih state after like => ?_) turns again _ _ like
  rw [branches, branches, ← like.word]
  split
  · refine (directive_mirrors _ _ _).bind fun _ _ _ => ?_
    refine (faithful _ _).bind fun test other alike => ?_
    refine (endTag_mirrors _ _).bind fun _ _ _ => ?_
    refine (bodies _ _ _ _ _ _).bind fun read another inner => Mirrors.position fun _ _ => ?_
    refine (ih (_, _) (_, _) ⟨?_, inner.word⟩).within (by omega) (by omega)
    have before := like.branches
    have body := inner.body
    simp only [unplacedBranches_eq_map, List.map_append, BodyLike] at before body ⊢
    simp only [before, List.map_cons, List.map_nil, unplacedBranch, alike.eq, body]
  · exact Mirrors.pure like

theorem condition_mirrors (passed : one.kind.IsPassed) (keyword again : Token) :
    Mirrors ((one, two) :: coming) bound limit 0 (condition whole nested keyword)
      (condition whole others again) Node.Like := by
  rw [condition, condition]
  refine Mirrors.advance passed ((faithful _ _).anywhere.bind fun test other like => ?_)
  refine (endTag_mirrors _ _).bind fun _ _ _ => ?_
  refine (bodies _ _ _ _ _ _).bind fun read another inner => ?_
  refine Mirrors.turns fun turns more => ?_
  have none : BranchesLike ([], read.2) ([], another.2) := ⟨rfl, inner.word⟩
  refine (branches_mirrors faithful bodies _ _ _ turns more none).bind fun further _ all => ?_
  refine (otherwise_mirrors bodies _ _ _ all.word _ _ _).bind fun rest _ last => ?_
  refine (directive_mirrors _ _ _).bind fun _ _ _ => ?_
  refine (endTag_mirrors _ _).bind fun _ _ _ => Mirrors.position fun _ _ => Mirrors.pure ?_
  simp only [Node.Like, unplaced, like.eq, all.branches, last]
  exact congrArg (Node.condition _ · _ _ _) inner.body

theorem loop_mirrors (passed : one.kind.IsPassed) (keyword again : Token) :
    Mirrors ((one, two) :: coming) bound limit 0 (loop whole nested keyword)
      (loop whole others again) Node.Like := by
  rw [loop, loop]
  refine Mirrors.advance passed ((loopTargets_mirrors _ _).anywhere.bind fun targets _ same => ?_)
  subst same
  refine Mirrors.current fun word _ similar => ?_
  rw [← similar.isKeyword]
  split
  case isTrue reads =>
    refine Mirrors.advance (passed_of_keyword reads) ?_
    refine (faithful _ _).bind fun iterable other like => ?_
    refine (endTag_mirrors _ _).bind fun _ _ _ => ?_
    refine (bodies _ _ _ _ _ _).bind fun read another inner => ?_
    refine (otherwise_mirrors bodies _ _ _ inner.word _ _ _).bind fun rest _ last => ?_
    refine (directive_mirrors _ _ _).bind fun _ _ _ => ?_
    refine (endTag_mirrors _ _).bind fun _ _ _ => Mirrors.position fun _ _ => Mirrors.pure ?_
    simp only [Node.Like, unplaced, like.eq, last]
    exact congrArg (Node.loop _ _ · _ _) inner.body
  case isFalse => exact Mirrors.unexpected

theorem statement_mirrors (passed : one.kind.IsPassed) {openings enclosing : List Opening}
    (same : openings.isEmpty = enclosing.isEmpty) :
    Mirrors ((one, two) :: coming) bound limit 1 (statement whole nested openings)
      (statement whole others enclosing) Node.Like := by
  rw [statement, statement]
  refine Mirrors.advance passed (Mirrors.current fun keyword again similar => ?_)
  rw [← similar.kind]
  split
  · exact Mirrors.refuse
  · split
    · exact Mirrors.unexpected
    case isFalse isKeyword =>
      have kind : keyword.kind = .keyword := not_not.mp isKeyword
      have word : keyword.kind.IsPassed := by rw [kind]; decide
      rw [← similar.value word.noText]
      split
      · exact condition_mirrors faithful bodies word _ _
      · exact loop_mirrors faithful bodies word _ _
      · exact binding_mirrors faithful word _ _
      · exact block_mirrors bodies word _ _
      · exact parent_mirrors word same _ _
      · exact inclusion_mirrors faithful word _ _
      · split <;> exact Mirrors.refuse

/-- The turns of both runs are enough for the tokens they have left. -/
theorem nodes_mirrors (same : openings.isEmpty = enclosing.isEmpty) (turns again : Nat)
    {before after : List Node} (like : BodyLike before after) :
    Mirrors [] turns again 0 (nodes whole nested openings words turns before)
      (nodes whole others enclosing words again after) ReadLike := by
  induction turns generalizing again before after with
  | zero => exact Mirrors.exhausted (.inl rfl)
  | succ turns ih =>
      cases again with
      | zero => exact Mirrors.exhausted (.inr rfl)
      | succ again =>
          refine Mirrors.byText (nodes_text_mirrors (ih _) like) fun one two similar noText => ?_
          have adds {node other : Node} (alike : node.Like other) :=
            ih again (like.cons alike)
          have directed (passed : one.kind.IsPassed) {coming : List (Token × Token)} :
              Mirrors ((one, two) :: coming) (turns + 1) (again + 1) 0
                (statement whole nested openings >>= fun node =>
                  nodes whole nested openings words turns (node :: before))
                (statement whole others enclosing >>= fun node =>
                  nodes whole others enclosing words again (node :: after)) ReadLike :=
            (statement_mirrors faithful bodies passed same).bind fun _ _ alike => adds alike
          rw [nodes, nodes]
          refine Mirrors.known ?_
          rw [← similar.kind]
          cases kind : one.kind with
          | text => exact absurd kind noText
          | endOfInput => exact finish_mirrors noText similar same like
          | expressionOpen =>
              have passed : one.kind.IsPassed := by rw [kind]; decide
              exact (output_mirrors faithful passed).bind fun _ _ alike => adds alike
          | blockOpen =>
              have passed : one.kind.IsPassed := by rw [kind]; decide
              refine Mirrors.next passed fun keyword other alike => ?_
              rw [← alike.kind]
              by_cases isKeyword : keyword.kind = .keyword
              · rw [← alike.value (by simp [isKeyword])]
                split
                · exact Mirrors.pure ⟨like.reverse, alike.value (by simp [isKeyword])⟩
                · exact directed passed
              · simp only [isKeyword, decide_false, Bool.false_and, Bool.false_eq_true, if_false]
                exact directed passed
          | _ => exact Mirrors.unexpected

end

theorem bodyAt_mirrors (limit : Int) (depth : Nat) {openings enclosing : List Opening}
    (same : openings.isEmpty = enclosing.isEmpty) (words : List String) (bound more : Nat) :
    Mirrors [] bound more 0 (bodyAt limit depth openings words) (bodyAt limit depth enclosing words)
      ReadLike := by
  induction depth generalizing openings enclosing words bound more with
  | zero =>
      refine Mirrors.turns fun turns again => ?_
      exact nodes_mirrors (expression_mirrors limit) (fun _ _ _ _ _ _ => Mirrors.refuse) same turns
        again rfl
  | succ depth ih =>
      refine Mirrors.turns fun turns again => ?_
      refine nodes_mirrors (expression_mirrors limit) ?_ same turns again rfl
      exact fun _ _ _ _ => ih (by rfl) _

theorem isParent_unplaced (node : Node) : node.unplaced.isParent = node.isParent := by
  cases node <;> rfl

theorem isBlankText_unplaced (node : Node) : node.unplaced.isBlankText = node.isBlankText := by
  cases node <;> rfl

/-- The body is settled if no parent stands among the other nodes. -/
def settleUnless (others body : List Node) : Except (Option Position) (List Node) :=
  match others.find? isParent with
  | some misplaced => .error misplaced.position
  | none => .ok body

theorem settleUnless_like {ones twos left right : List Node} (others : BodyLike ones twos)
    (like : BodyLike left right) :
    Alike (fun _ _ => True) BodyLike (settleUnless ones left) (settleUnless twos right) := by
  have parents (nodes : List Node) :
      (unplacedBody nodes).find? isParent = (nodes.find? isParent).map unplaced := by
    rw [unplacedBody_eq_map, List.find?_map,
      show isParent ∘ unplaced = isParent from funext isParent_unplaced]
  have found := parents ones
  rw [others, parents] at found
  unfold settleUnless
  cases one : ones.find? isParent <;> cases two : twos.find? isParent <;> rw [one, two] at found
  · exact .ok like
  · cases found
  · cases found
  · exact .error trivial

theorem settleParent_eq_unless (body : List Node) :
    settleParent body = if (body.dropWhile isBlankText).head?.any isParent then
      settleUnless (body.dropWhile isBlankText).tail (body.dropWhile isBlankText)
    else settleUnless body body := by
  rw [settleParent_eq_match]
  cases body.dropWhile isBlankText with
  | nil => rfl
  | cons node rest => cases node <;> rfl

/-- Which texts are dropped and which parents are refused does not depend on places. -/
theorem settleParent_like {ones twos : List Node} (like : BodyLike ones twos) :
    Alike (fun _ _ => True) BodyLike (settleParent ones) (settleParent twos) := by
  have blanks (body : List Node) : (unplacedBody body).dropWhile isBlankText =
      unplacedBody (body.dropWhile isBlankText) := by
    rw [unplacedBody_eq_map, unplacedBody_eq_map, List.dropWhile_map,
      show isBlankText ∘ unplaced = isBlankText from funext isBlankText_unplaced]
  have after : BodyLike (ones.dropWhile isBlankText) (twos.dropWhile isBlankText) := by
    rw [BodyLike, ← blanks, like, blanks]
  have first (body : List Node) :
      body.head?.any isParent = (unplacedBody body).head?.any isParent := by
    cases body with
    | nil => rfl
    | cons node _ => exact (isParent_unplaced node).symm
  have tails (body : List Node) : unplacedBody body.tail = (unplacedBody body).tail := by
    cases body <;> rfl
  rw [settleParent_eq_unless, settleParent_eq_unless, first (ones.dropWhile _),
    first (twos.dropWhile _), after]
  split
  · exact settleUnless_like (by rw [BodyLike, tails, after, tails]) after
  · exact settleUnless_like like like

end Grammar

namespace Template

/-- Tokens that echo each other spell the same template, places aside, or both spell none. -/
theorem ofTokens_echoes {tokens others : List Token} (echoes : Echoes tokens others) (limit : Int)
    (name source again : String) :
    Alike (fun _ _ => True) (fun template other => BodyLike template.body other.body)
      (ofTokens limit name source tokens) (ofTokens limit name again others) := by
  have mirrored : (Cursor.ofTokens name tokens).Mirrored (Cursor.ofTokens name others) :=
    ⟨echoes, rfl, Nat.le_refl _, Nat.le_refl _⟩
  have outermost : ([] : List Opening).isEmpty = ([] : List Opening).isEmpty := rfl
  have read := bodyAt_mirrors limit limit.toNat outermost [] _ _ mirrored (Nat.le_refl _)
    (Nat.le_refl _) List.nil_prefix List.nil_prefix
  rw [ofTokens, ofTokens]
  generalize bodyAt limit limit.toNat [] [] (Cursor.ofTokens name tokens) = left at read ⊢
  generalize bodyAt limit limit.toNat [] [] (Cursor.ofTokens name others) = right at read ⊢
  cases read with
  | error => exact .error trivial
  | @ok read another reached =>
      have settled := settleParent_like reached.values.body
      obtain ⟨⟨body, _⟩, _⟩ := read
      obtain ⟨⟨other, _⟩, _⟩ := another
      simp only at settled ⊢
      generalize settleParent body = left at settled ⊢
      generalize settleParent other = right at settled ⊢
      cases settled with
      | error => exact .error trivial
      | ok like => exact .ok like

end Template

end Templating
