import Templating.Inheritance
import Templating.Proofs.Grammar.Pieces

/-!
Every well-formed body with distinct block names reads back from its lexemes, if there are levels
enough for the bodies in it and for its expressions; where they are too few for an expression, the
limit cuts reading off. What ends a body is the opener of a directive and its word, so a body is read
together with what is read behind it.
-/

namespace Templating

namespace Node

@[simp] theorem unplacedBody_eq_map (body : List Node) :
    unplacedBody body = body.map unplaced := by
  induction body with
  | nil => rfl
  | cons node body ih => rw [unplacedBody, ih, List.map_cons]

@[simp] theorem unplacedBranches_eq_map (branches : List Branch) :
    unplacedBranches branches = branches.map unplacedBranch := by
  induction branches with
  | nil => rfl
  | cons branch branches ih => rw [unplacedBranches, ih, List.map_cons]

end Node

namespace Grammar

open Templating.Parser Canonical

variable {refusals : Refusal → Prop} {β : Type} {lexemes : List Lexeme} {stop : Lexeme → Prop}
  {result : β → Prop} {names : List String}

/-- The words that continue or end a body. -/
def bodyEnds : List String :=
  ["elif", "else", "endif", "endfor", "endblock"]

/-- What reads the bodies inside, if nesting is left. -/
def nestedAt (limit : Int) : Nat → List Opening → BodyParser
  | 0, _ => fun _ keyword _ => refuse (.tooDeep limit) keyword
  | depth + 1, openings =>
    fun enclosure keyword => bodyAt limit depth ((enclosure, keyword) :: openings)

theorem bodyAt_eq (limit : Int) (depth : Nat) (openings : List Opening)
    (terminators : List String) : bodyAt limit depth openings terminators = (do
      nodes (expression limit) (nestedAt limit depth openings) openings terminators
        (← size) []) := by
  cases depth <;> rfl

/-- The parser reads the body up to the next of these words, whatever is read behind it, if the
expressions in it are within the limit. -/
def ReadsBody (limit : Int) (refusals : Refusal → Prop) (body : BodyParser)
    (content : List Node) : Prop :=
  ∀ {β : Type} (enclosure : Enclosure) (keyword : Token) (terminators : List String) (word : String)
    (onwards : List Node × Token → Parser β) (lexemes : List Lexeme) (stop : Lexeme → Prop)
    (result : β → Prop) (names : List String),
    terminators ⊆ bodyEnds → word ∈ terminators →
    (∀ read token, Node.unplacedBody read = Node.unplacedBody content →
      Node.BodyShallow limit.toNat content → token.lexeme = (.keyword, word) →
      Accepts refusals (onwards (read, token))
        ((.blockOpen, "\x7b%") :: (.keyword, word) :: lexemes) stop result names) →
    Accepts refusals (body enclosure keyword terminators >>= onwards)
      (bodyLexemes content ++ (.blockOpen, "\x7b%") :: (.keyword, word) :: lexemes) stop result
      (Node.bodyBlockNames content ++ names)

/-- A branch whose test and body can be read if they are within the limit. -/
structure ReadsBranch (limit : Int) (refusals : Refusal → Prop) (nested : BodyParser)
    (branch : Branch) : Prop where
  known : branch.test.WellFormed
  cut : CutUnless limit refusals (branch.test.nesting < limit.toNat)
  reads : ReadsBody limit refusals nested branch.body

/-- The word that ends a body before these branches. -/
def firstWord (branches : List Branch) (word : String) : String :=
  if branches.isEmpty then word else "elif"

theorem branchesLexemes_append (branches : List Branch) (word : String) (lexemes : List Lexeme) :
    ∃ others, branchesLexemes branches ++ (.blockOpen, "\x7b%") :: (.keyword, word) :: lexemes =
      (.blockOpen, "\x7b%") :: (.keyword, firstWord branches word) :: others := by
  cases branches with
  | nil => exact ⟨_, rfl⟩
  | cons branch branches =>
      obtain ⟨test, body, position⟩ := branch
      exact ⟨_, rfl⟩

theorem branches_accepts {limit : Int} {nested : BodyParser} {content : List Branch}
    (known : ∀ branch ∈ content, ReadsBranch limit refusals nested branch) (enclosure : Token)
    {budget : Nat} (enough : content.length < budget) {terminator : Token}
    (before : List Branch) {word : String} (ends : word = "else" ∨ word = "endif")
    (same : terminator.lexeme = (.keyword, firstWord content word))
    {onwards : List Branch × Token → Parser β}
    (accepts : ∀ read token, Node.unplacedBranches read = Node.unplacedBranches (before ++ content) →
      (∀ branch ∈ content, branch.test.nesting < limit.toNat ∧
        Node.BodyShallow limit.toNat branch.body) →
      token.lexeme = (.keyword, word) →
      Accepts refusals (onwards (read, token))
        ((.blockOpen, "\x7b%") :: (.keyword, word) :: lexemes) stop result names) :
    Accepts refusals
      (branches (expression limit) (nested .condition enclosure) budget terminator before >>=
        onwards)
      (branchesLexemes content ++ (.blockOpen, "\x7b%") :: (.keyword, word) :: lexemes) stop result
      (Node.branchesBlockNames content ++ names) := by
  induction content generalizing budget terminator before with
  | nil =>
      cases budget with
      | zero => exact absurd enough (Nat.not_lt_zero _)
      | succ budget =>
          have spelled : terminator.value = word := congrArg Prod.snd same
          have other : ¬ word = "elif" := by rcases ends with rfl | rfl <;> decide
          rw [branches, spelled, if_neg other, pure_bind]
          exact accepts before terminator (by rw [List.append_nil]) (List.forall_mem_nil _) same
  | cons branch content ih =>
      cases budget with
      | zero => exact absurd enough (Nat.not_lt_zero _)
      | succ budget =>
          obtain ⟨test, body, position⟩ := branch
          obtain ⟨readable, cut, reads⟩ := known _ List.mem_cons_self
          have spelled : terminator.value = "elif" := congrArg Prod.snd same
          obtain ⟨others, tail⟩ := branchesLexemes_append content word lexemes
          have words : firstWord content word ∈ ["elif", "else", "endif"] := by
            unfold firstWord
            rcases ends with rfl | rfl <;> split <;> decide
          rw [branches, spelled, if_pos rfl, branchesLexemes, branchLexemes, directiveLexemes,
            Node.branchesBlockNames, Node.branchBlockNames]
          simp only [bind_assoc, List.cons_append, List.append_assoc, List.nil_append]
          apply Accepts.directive
          intro keyword _
          apply Accepts.expression readable cut (endsExpression_close _)
          intro read sameTest shallowTest
          apply Accepts.endTag
          rw [tail]
          apply reads .condition enclosure _ _ _ _ _ _ _ (by decide) words
          intro readBody token sameBody shallowBody sameToken
          rw [← tail]
          apply Accepts.position
          intro place
          apply ih (fun other member => known other (List.mem_cons_of_mem _ member))
            (Nat.lt_of_succ_lt_succ enough) _ sameToken
          intro all last sameAll shallowAll sameLast
          apply accepts all last _
            (List.forall_mem_cons.mpr ⟨⟨shallowTest, shallowBody⟩, shallowAll⟩) sameLast
          have sameRead : Node.unplacedBranch (.mk read readBody place) =
              Node.unplacedBranch (.mk test body position) :=
            congrArg₂ (Branch.mk · · none) sameTest sameBody
          simp only [Node.unplacedBranches_eq_map, List.map_append, List.map_cons,
            List.append_assoc, List.singleton_append, sameRead] at sameAll ⊢
          exact sameAll

theorem otherwise_accepts {limit : Int} {nested : BodyParser} {content : Option (List Node)}
    (known : ∀ body ∈ content, ReadsBody limit refusals nested body) (enclosure : Enclosure)
    (keyword : Token)
    {word : String} (ends : word = "endif" ∨ word = "endfor") {terminator : Token}
    (same : terminator.lexeme = (.keyword, if content.isSome then "else" else word))
    {onwards : Option (List Node) → Parser β}
    (accepts : ∀ read, Node.unplacedOption read = Node.unplacedOption content →
      (∀ body ∈ content, Node.BodyShallow limit.toNat body) →
      Accepts refusals (onwards read) ((.blockOpen, "\x7b%") :: (.keyword, word) :: lexemes) stop
        result names) :
    Accepts refusals (otherwise (nested enclosure keyword) terminator word >>= onwards)
      (otherwiseLexemes content ++ (.blockOpen, "\x7b%") :: (.keyword, word) :: lexemes) stop result
      (Node.optionBlockNames content ++ names) := by
  cases content with
  | none =>
      have spelled : terminator.value = word := congrArg Prod.snd same
      have other : ¬ word = "else" := by rcases ends with rfl | rfl <;> decide
      rw [otherwise, spelled, if_neg other, pure_bind]
      exact accepts none rfl (by simp)
  | some body =>
      have spelled : terminator.value = "else" := congrArg Prod.snd same
      rw [otherwise, spelled, if_pos rfl, otherwiseLexemes, directiveLexemes, Node.optionBlockNames]
      simp only [bind_assoc, List.cons_append, List.nil_append]
      apply Accepts.directive
      intro _ _
      apply Accepts.endTag
      apply known body rfl enclosure keyword [word] word _ _ _ _ _ _ (List.mem_singleton_self word)
      · intro read token sameBody shallow _
        rw [pure_bind]
        exact accepts (some read) (by rw [Node.unplacedOption, Node.unplacedOption, sameBody])
          (by simpa using shallow)
      · rcases ends with rfl | rfl <;> decide

theorem otherwiseLexemes_append (content : Option (List Node)) (word : String)
    (lexemes : List Lexeme) :
    ∃ others, otherwiseLexemes content ++ (.blockOpen, "\x7b%") :: (.keyword, word) :: lexemes =
      (.blockOpen, "\x7b%") :: (.keyword, if content.isSome then "else" else word) :: others := by
  cases content <;> exact ⟨_, rfl⟩

theorem length_le_branchesLexemes (branches : List Branch) :
    branches.length ≤ (branchesLexemes branches).length := by
  induction branches with
  | nil => exact Nat.le_refl _
  | cons branch branches ih =>
      obtain ⟨test, body, position⟩ := branch
      simp only [branchesLexemes, branchLexemes, directiveLexemes, List.length_append,
        List.length_cons]
      omega

theorem condition_accepts {limit : Int} {nested : BodyParser} {test : Expr} {body : List Node}
    {further : List Branch} {rest : Option (List Node)} (known : test.WellFormed)
    (cut : CutUnless limit refusals (test.nesting < limit.toNat))
    (reads : ReadsBody limit refusals nested body)
    (readsFurther : ∀ branch ∈ further, ReadsBranch limit refusals nested branch)
    (readsRest : ∀ body ∈ rest, ReadsBody limit refusals nested body) (position : Option Position)
    (keyword : Token) :
    Accepts refusals (condition (expression limit) nested keyword)
      ((.keyword, "if") :: (Canonical.lexemes test ++ (.blockClose, "%\x7d") ::
        (bodyLexemes body ++ (branchesLexemes further ++ (otherwiseLexemes rest ++
          directiveLexemes "endif" []))))) stop
      (fun read => read.unplaced = (Node.condition test body further rest position).unplaced ∧
        (Node.condition test body further rest position).Throughout (Node.Shallow limit.toNat))
      (Node.bodyBlockNames body ++
        (Node.branchesBlockNames further ++ Node.optionBlockNames rest)) := by
  obtain ⟨lastLexemes, last⟩ := otherwiseLexemes_append rest "endif" [(.blockClose, "%\x7d")]
  have lastWord : (if rest.isSome then "else" else "endif") = "else" ∨
      (if rest.isSome then "else" else "endif") = "endif" := by
    split
    · exact .inl rfl
    · exact .inr rfl
  obtain ⟨tail, next⟩ := branchesLexemes_append further (if rest.isSome then "else" else "endif")
    lastLexemes
  have words : firstWord further (if rest.isSome then "else" else "endif") ∈
      ["elif", "else", "endif"] := by
    unfold firstWord
    split
    · rcases lastWord with same | same <;> (rw [same]; decide)
    · decide
  rw [condition, ← List.append_nil (Node.optionBlockNames rest)]
  apply Accepts.advance (by decide)
  intro _ _
  apply Accepts.expression known cut (endsExpression_close _)
  intro readTest sameTest shallowTest
  apply Accepts.endTag
  rw [directiveLexemes, List.cons_append, List.cons_append, List.nil_append, last, next]
  apply reads .condition keyword _ _ _ _ _ _ _ (by decide) words
  intro readBody first sameBody shallowBody sameFirst
  rw [← next]
  apply Accepts.size
  intro budget turns
  apply branches_accepts readsFurther keyword _ [] lastWord sameFirst
  · intro readFurther second sameFurther shallowFurther sameSecond
    rw [← last]
    apply otherwise_accepts readsRest .condition keyword (.inl rfl) sameSecond
    intro readRest sameRest shallowRest
    apply Accepts.directive
    intro _ _
    apply Accepts.endTag
    apply Accepts.position
    intro _
    refine Accepts.pure ⟨?_, Node.throughout_condition_iff.mpr
      ⟨⟨shallowTest, shallowBody⟩, shallowFurther, shallowRest⟩⟩
    rw [Node.unplaced, Node.unplaced, sameTest, sameBody, sameFurther, sameRest, List.nil_append]
  · have shorter := length_le_branchesLexemes further
    simp only [List.length_append, List.length_cons] at turns
    omega

theorem loop_accepts {limit : Int} {nested : BodyParser} {targets : List String} {iterable : Expr}
    {body : List Node} {rest : Option (List Node)} (distinct : Node.TargetsWellFormed targets)
    (known : iterable.WellFormed) (cut : CutUnless limit refusals (iterable.nesting < limit.toNat))
    (reads : ReadsBody limit refusals nested body)
    (readsRest : ∀ body ∈ rest, ReadsBody limit refusals nested body) (position : Option Position)
    (keyword : Token) :
    Accepts refusals (loop (expression limit) nested keyword)
      ((.keyword, "for") :: (targetLexemes targets ++ (.keyword, "in") ::
        (Canonical.lexemes iterable ++ (.blockClose, "%\x7d") ::
          (bodyLexemes body ++ (otherwiseLexemes rest ++ directiveLexemes "endfor" []))))) stop
      (fun read => read.unplaced = (Node.loop targets iterable body rest position).unplaced ∧
        (Node.loop targets iterable body rest position).Throughout (Node.Shallow limit.toNat))
      (Node.bodyBlockNames body ++ Node.optionBlockNames rest) := by
  obtain ⟨tail, last⟩ := otherwiseLexemes_append rest "endfor" [(.blockClose, "%\x7d")]
  have words : (if rest.isSome then "else" else "endfor") ∈ ["else", "endfor"] := by
    split <;> decide
  rw [loop, ← List.append_nil (Node.optionBlockNames rest)]
  apply Accepts.advance (by decide)
  intro _ _
  have head : Accepts refusals loopTargets (targetLexemes targets)
      (fun lexeme => lexeme = (.keyword, "in")) (· = targets) := by
    apply loopTargets_accepts distinct
    rintro _ rfl
    decide
  refine Accepts.bind head ?_ (fun _ _ => rfl)
  rintro _ rfl
  apply Accepts.current
  rintro ⟨kind, value, mark⟩ same
  obtain ⟨rfl, rfl⟩ := Prod.mk.inj same
  show Accepts refusals (advance >>= _) _ _ _ _
  apply Accepts.advance (by decide)
  intro _ _
  apply Accepts.expression known cut (endsExpression_close _)
  intro readIterable sameIterable shallowIterable
  apply Accepts.endTag
  rw [directiveLexemes, List.cons_append, List.cons_append, List.nil_append, last]
  apply reads .loop keyword _ _ _ _ _ _ _ (by decide) words
  intro readBody first sameBody shallowBody sameFirst
  rw [← last]
  apply otherwise_accepts readsRest .loop keyword (.inr rfl) sameFirst
  intro readRest sameRest shallowRest
  apply Accepts.directive
  intro _ _
  apply Accepts.endTag
  apply Accepts.position
  intro _
  refine Accepts.pure ⟨?_, Node.throughout_loop_iff.mpr ⟨shallowIterable, shallowBody, shallowRest⟩⟩
  rw [Node.unplaced, Node.unplaced, sameIterable, sameBody, sameRest]

theorem block_accepts {limit : Int} {nested : BodyParser} {name : String} {body : List Node}
    (reads : ReadsBody limit refusals nested body) (position : Option Position) (keyword : Token) :
    Accepts refusals (block nested keyword)
      ((.keyword, "block") :: (.identifier, name) :: (.blockClose, "%\x7d") ::
        (bodyLexemes body ++ directiveLexemes "endblock" [])) stop
      (fun read => read.unplaced = (Node.block name body position).unplaced ∧
        (Node.block name body position).Throughout (Node.Shallow limit.toNat))
      (name :: Node.bodyBlockNames body) := by
  rw [block, ← List.append_nil (Node.bodyBlockNames body)]
  apply Accepts.advance (by decide)
  intro _ _
  apply Accepts.expect (by decide)
  intro token same
  have spelled : token.value = name := congrArg Prod.snd same
  apply Accepts.endTag
  have opens : Accepts refusals (openBlock token) [] (fun _ => True) (fun _ => True) [token.value] :=
    openBlock_accepts token
  rw [spelled] at opens
  refine Accepts.bindOpening opens ?_ (fun _ _ => trivial)
  intro _ _
  apply reads .block keyword ["endblock"] "endblock" _ _ _ _ _ (by decide) (by decide)
  intro readBody _ sameBody shallowBody _
  apply Accepts.directive
  intro _ _
  rw [closingName, bind_assoc]
  apply Accepts.current
  intro closing sameClosing
  have other : ¬ closing.kind = .identifier := by
    have kind : closing.kind = .blockClose := congrArg Prod.fst sameClosing
    rw [kind]
    decide
  rw [if_neg other, pure_bind]
  apply Accepts.endTag
  apply Accepts.position
  intro _
  refine Accepts.pure ⟨?_, Node.throughout_block_iff.mpr shallowBody⟩
  rw [Node.unplaced, Node.unplaced, sameBody, spelled]

theorem binding_accepts {limit : Int} {name : String} {value : Expr} (known : value.WellFormed)
    (cut : CutUnless limit refusals (value.nesting < limit.toNat)) (keyword : Token) :
    Accepts refusals (binding (expression limit) keyword)
      ((.keyword, "let") :: (pairLexemes (name, value) ++ [(.blockClose, "%\x7d")])) stop
      (fun read => read.unplaced = (Node.binding name value none).unplaced ∧
        value.nesting < limit.toNat) := by
  rw [binding, pairLexemes]
  apply Accepts.advance (by decide)
  intro _ _
  apply Accepts.expect (by decide)
  intro token same
  have spelled : token.value = name := congrArg Prod.snd same
  apply Accepts.expect (by decide)
  intro _ _
  apply Accepts.expression known cut (endsExpression_close _)
  intro read sameValue shallow
  apply Accepts.endTag
  apply Accepts.position
  intro _
  refine Accepts.pure ⟨?_, shallow⟩
  rw [Node.unplaced, Node.unplaced, sameValue, spelled]

theorem parent_accepts (name : String) (keyword : Token) :
    Accepts refusals (parent [] keyword)
      [(.keyword, "extends"), (.string, name), (.blockClose, "%\x7d")] stop
      (fun read => read.unplaced = (Node.parent name none).unplaced) := by
  rw [parent]
  show Accepts refusals (advance >>= _) _ _ _ _
  apply Accepts.advance (by decide)
  intro _ _
  apply Accepts.expect (by decide)
  intro token same
  have spelled : token.value = name := congrArg Prod.snd same
  apply Accepts.endTag
  apply Accepts.position
  intro _
  apply Accepts.pure
  rw [Node.unplaced, Node.unplaced, spelled]

theorem length_le_pairs (pairs : List (String × Expr)) :
    pairs.length ≤ (commaLexemes (pairs.map pairLexemes)).length := by
  have nonempty : ∀ part ∈ pairs.map pairLexemes, part ≠ [] := by
    intro part member
    obtain ⟨pair, _, rfl⟩ := List.mem_map.mp member
    exact List.cons_ne_nil _ _
  simpa using length_le_commaLexemes nonempty

theorem inclusion_accepts {limit : Int} {name : String} {bindings : Option (List (String × Expr))}
    (known : Node.BindingsWellFormed bindings)
    (cut : CutUnless limit refusals (∀ pair ∈ bindings.getD [], pair.2.nesting < limit.toNat))
    (keyword : Token) :
    Accepts refusals (inclusion (expression limit) keyword)
      ((.keyword, "include") :: (.string, name) ::
        (bindingLexemes bindings ++ [(.blockClose, "%\x7d")])) stop
      (fun read => read.unplaced = (Node.inclusion name bindings none).unplaced ∧
        ∀ pair ∈ bindings.getD [], pair.2.nesting < limit.toNat) := by
  rw [inclusion]
  apply Accepts.advance (by decide)
  intro _ _
  apply Accepts.expect (by decide)
  intro token same
  have spelled : token.value = name := congrArg Prod.snd same
  cases bindings with
  | none =>
      apply Accepts.current
      rintro ⟨kind, value, mark⟩ sameClose
      obtain ⟨rfl, rfl⟩ := Prod.mk.inj sameClose
      show Accepts refusals (pure none >>= _) _ _ _ _
      rw [pure_bind]
      apply Accepts.endTag
      apply Accepts.position
      intro _
      exact Accepts.pure ⟨by rw [Node.unplaced, Node.unplaced, spelled], by simp⟩
  | some pairs =>
      rw [bindingLexemes, List.cons_append]
      apply Accepts.current
      rintro ⟨kind, value, mark⟩ sameWith
      obtain ⟨rfl, rfl⟩ := Prod.mk.inj sameWith
      show Accepts refusals (advance >>= _) _ _ _ _
      apply Accepts.advance (by decide)
      intro _ _
      apply Accepts.size
      intro budget turns
      have enough : pairs.length ≤ budget := by
        have shorter := length_le_pairs pairs
        simp only [List.length_append] at turns
        omega
      refine Accepts.bind (bindingsRest_accepts known.1 (fun pair member => (known.2 pair member).2)
        cut [] enough) ?_ (fun _ _ => rfl)
      rintro read ⟨sameRead, shallow⟩
      rw [pure_bind]
      apply Accepts.endTag
      apply Accepts.position
      intro _
      exact Accepts.pure ⟨by simpa [Node.unplaced, spelled, SamePairs] using sameRead, shallow⟩

theorem output_reads {whole : Parser Expr} {holds : Expr → Prop}
    (accepts : Accepts refusals whole lexemes EndsExpression holds) :
    Accepts refusals (output whole) (outputLexemes lexemes) stop
      (fun read => ∃ expr position, read = .output expr position ∧ holds expr) := by
  rw [output, outputLexemes, List.cons_append]
  apply Accepts.advance (by decide)
  intro _ _
  refine Accepts.bind accepts ?_ (fun _ _ => by simp [EndsExpression])
  intro expr good
  apply Accepts.expect (by decide)
  intro _ _
  apply Accepts.position
  intro position
  exact Accepts.pure ⟨expr, position, rfl, good⟩

theorem output_accepts {limit : Int} {expr : Expr} (known : expr.WellFormed)
    (cut : CutUnless limit refusals (expr.nesting < limit.toNat)) :
    Accepts refusals (output (expression limit)) (outputLexemes (Canonical.lexemes expr)) stop
      (fun read => read.unplaced = (Node.output expr none).unplaced ∧
        expr.nesting < limit.toNat) := by
  refine (output_reads (expression_accepts known cut)).mono (fun _ holds => holds) ?_
  rintro _ ⟨read, position, rfl, same, shallow⟩
  exact ⟨by rw [Node.unplaced, Node.unplaced, same], shallow⟩

/-- A directive is read by what its word stands for. -/
theorem statement_accepts {limit : Int} {nested : BodyParser} {openings : List Opening}
    {word : String} {parser : Token → Parser Node}
    (picks : ∀ (cursor : Cursor) (opener mark : Mark) (rest : List Token),
      statement (expression limit) nested openings
          (cursor.before (⟨.blockOpen, "\x7b%", opener⟩ :: ⟨.keyword, word, mark⟩ :: rest)) =
        parser ⟨.keyword, word, mark⟩ (cursor.before (⟨.keyword, word, mark⟩ :: rest)))
    {result : Node → Prop}
    (accepts : ∀ keyword,
      Accepts refusals (parser keyword) ((.keyword, word) :: lexemes) stop result names) :
    Accepts refusals (statement (expression limit) nested openings)
      ((.blockOpen, "\x7b%") :: (.keyword, word) :: lexemes) stop result names := by
  intro cursor tokens following rest same stops enough fresh
  obtain ⟨opener, tokens, rfl, sameRest⟩ := exists_token same
  obtain ⟨mark, others, rfl, _⟩ := exists_token sameRest
  have run := accepts ⟨.keyword, word, mark⟩ cursor _ following rest sameRest stops
    (by simp only [List.length_cons] at enough ⊢; omega) fresh
  have picked := picks cursor opener mark (others ++ following :: rest)
  rw [List.cons_append, List.cons_append] at *
  rw [picked]
  exact run

/-- What reads a node that is not text. -/
def nodeParser (limit : Int) (depth : Nat) (openings : List Opening) : Node → Parser Node
  | .output .. => output (expression limit)
  | _ => statement (expression limit) (nestedAt limit depth openings) openings

def ReadsNode (limit : Int) (refusals : Refusal → Prop) (depth : Nat) (openings : List Opening)
    (node : Node) : Prop :=
  Accepts refusals (nodeParser limit depth openings node) (nodeLexemes node) (fun _ => True)
    (fun read => read.unplaced = node.unplaced ∧ node.Throughout (Node.Shallow limit.toNat))
    node.blockNames

/-- The words that start a directive do not end a body. -/
theorem nodeLexemes_head {node : Node} (noText : node.isText = false) :
    (∃ expr position, node = .output expr position) ∨
      ((∀ limit depth openings, nodeParser limit depth openings node =
          statement (expression limit) (nestedAt limit depth openings) openings) ∧
        ∃ word others, nodeLexemes node = (.blockOpen, "\x7b%") :: (.keyword, word) :: others ∧
          word ∉ bodyEnds) := by
  cases node with
  | text content position => cases noText
  | output expr position => exact .inl ⟨expr, position, rfl⟩
  | condition test body branches otherwise position =>
      exact .inr ⟨fun _ _ _ => rfl, "if", _, by rw [nodeLexemes]; rfl, by decide⟩
  | loop targets iterable body otherwise position =>
      exact .inr ⟨fun _ _ _ => rfl, "for", _, by rw [nodeLexemes]; rfl, by decide⟩
  | binding name value position =>
      exact .inr ⟨fun _ _ _ => rfl, "let", _, by rw [nodeLexemes]; rfl, by decide⟩
  | block name body position =>
      exact .inr ⟨fun _ _ _ => rfl, "block", _, by rw [nodeLexemes]; rfl, by decide⟩
  | parent name position =>
      exact .inr ⟨fun _ _ _ => rfl, "extends", _, by rw [nodeLexemes]; rfl, by decide⟩
  | inclusion name bindings position =>
      exact .inr ⟨fun _ _ _ => rfl, "include", _, by rw [nodeLexemes]; rfl, by decide⟩

theorem isText_eq_unplaced (node : Node) : node.isText = node.unplaced.isText := by
  cases node <;> rfl

theorem appendText_apart {content : String} {position : Option Position} {before : List Node}
    (apart : ∀ node ∈ before.head?, node.isText = false) :
    appendText content position before = .text content position :: before := by
  cases before with
  | nil => rfl
  | cons node before =>
      have noText := apart node rfl
      cases node <;> first | rfl | cases noText

theorem nodes_accepts {limit : Int} {depth : Nat} {openings : List Opening}
    {terminators : List String} (ends : terminators ⊆ bodyEnds) {inside : Bool}
    {content : List Node} (known : Node.BodyWellFormed inside content)
    (reads : ∀ node ∈ content, node.isText = false → ReadsNode limit refusals depth openings node)
    {onwards : List Node × Token → Parser β} {budget : Nat}
    (enough : (bodyLexemes content ++ lexemes).length < budget) (before : List Node)
    (apart : ∀ node ∈ before.head?, node.isText → ∀ next ∈ content.head?, next.isText = false)
    (finishes : ∀ budget read, lexemes.length < budget →
      read.reverse.map Node.unplaced = (before.reverse ++ content).map Node.unplaced →
      Node.BodyShallow limit.toNat content →
      Accepts refusals (nodes (expression limit) (nestedAt limit depth openings) openings
        terminators budget read >>= onwards) lexemes stop result names) :
    Accepts refusals (nodes (expression limit) (nestedAt limit depth openings) openings terminators
        budget before >>= onwards) (bodyLexemes content ++ lexemes) stop result
      (Node.bodyBlockNames content ++ names) := by
  induction content generalizing budget before with
  | nil => exact finishes budget before enough (by rw [List.append_nil]) Node.bodyThroughout_nil
  | cons node content ih =>
      obtain ⟨nodeKnown, _, separate, others⟩ := known
      cases budget with
      | zero => exact absurd enough (Nat.not_lt_zero _)
      | succ budget =>
          have goesOn : ∀ read : Node, read.unplaced = node.unplaced →
              node.Throughout (Node.Shallow limit.toNat) →
              (bodyLexemes content ++ lexemes).length < budget →
              Accepts refusals (nodes (expression limit) (nestedAt limit depth openings) openings
                terminators budget (read :: before) >>= onwards) (bodyLexemes content ++ lexemes)
                stop result (Node.bodyBlockNames content ++ names) := by
            intro read same shallow less
            have sameKind : read.isText = node.isText := by
              rw [isText_eq_unplaced, same, ← isText_eq_unplaced]
            apply ih others (fun other member => reads other (List.mem_cons_of_mem _ member)) less
            · rintro _ ⟨⟩ text
              exact separate (sameKind ▸ text)
            · intro budget all tail sameAll shallowAll
              apply finishes budget all tail _ (Node.bodyThroughout_cons.mpr ⟨shallow, shallowAll⟩)
              rw [sameAll]
              simp [same]
          have size : (nodeLexemes node).length + (bodyLexemes content ++ lexemes).length <
              budget + 1 := by
            simpa [bodyLexemes, Nat.add_assoc] using enough
          rw [bodyLexemes, Node.bodyBlockNames, List.append_assoc, List.append_assoc, nodes,
            bind_assoc]
          cases text : node.isText with
          | true =>
              cases node with
              | text value position =>
                  have spelled : nodeLexemes (.text value position) = [(.text, value)] := by
                    have something : value ≠ "" := nodeKnown
                    rw [nodeLexemes, Lexer.runLexemes, if_neg (by simpa using something),
                      String.ofList_toList]
                  have newText : ∀ other ∈ before.head?, other.isText = false := by
                    intro other member
                    cases kind : other.isText with
                    | false => rfl
                    | true => cases apart other member kind _ rfl
                  rw [spelled] at size
                  rw [spelled, List.singleton_append]
                  apply Accepts.current
                  rintro ⟨kind, shown, mark⟩ same
                  obtain ⟨rfl, rfl⟩ := Prod.mk.inj same
                  show Accepts refusals ((advance >>= _) >>= _) _ _ _ _
                  rw [bind_assoc]
                  apply Accepts.advance (by simp)
                  intro _ _
                  rw [bind_assoc]
                  apply Accepts.position
                  intro place
                  rw [appendText_apart newText]
                  exact goesOn _ rfl ((Node.throughout_bare_iff rfl).mpr (List.forall_mem_nil _))
                    (by simp only [List.length_cons] at size; omega)
              | _ => cases text
          | false =>
              have readsNode := reads node List.mem_cons_self text
              rcases nodeLexemes_head text with ⟨expr, position, rfl⟩ |
                ⟨parser, word, rest, spelled, noEnd⟩
              · have some : 0 < (nodeLexemes (.output expr position)).length := Nat.succ_pos _
                have whole := Accepts.bindOpening readsNode
                  (fun read holds => goesOn read holds.1 holds.2 (by omega)) (fun _ _ => trivial)
                apply Accepts.current
                rintro ⟨kind, value, mark⟩ same
                obtain ⟨rfl, rfl⟩ := Prod.mk.inj same
                show Accepts refusals ((output (expression limit) >>= _) >>= _) _ _ _ _
                rw [bind_assoc]
                exact whole
              · rw [spelled] at size
                simp only [List.length_cons] at size
                have whole := Accepts.bindOpening readsNode
                  (fun read holds => goesOn read holds.1 holds.2 (by omega)) (fun _ _ => trivial)
                rw [parser limit depth openings] at whole
                rw [spelled, List.cons_append, List.cons_append] at whole ⊢
                apply Accepts.current
                rintro ⟨kind, value, mark⟩ same
                obtain ⟨rfl, rfl⟩ := Prod.mk.inj same
                show Accepts refusals ((next >>= _) >>= _) _ _ _ _
                rw [bind_assoc]
                apply Accepts.next (fun lexeme => lexeme = (.keyword, word)) (fun _ _ => rfl)
                intro keyword sameKeyword
                have value : keyword.value = word := congrArg Prod.snd sameKeyword
                have goes : ¬ (keyword.kind = .keyword && terminators.contains keyword.value) := by
                  rw [value]
                  simpa using fun _ member => noEnd (ends member)
                rw [if_neg goes, bind_assoc]
                exact whole

/-- A body is read up to the word behind it if its nodes are read. -/
theorem readsBody_of_nodes {limit : Int} {depth : Nat} {openings : List Opening}
    {content : List Node} (known : Node.BodyWellFormed true content)
    (reads : ∀ enclosure keyword, ∀ node ∈ content, node.isText = false →
      ReadsNode limit refusals depth ((enclosure, keyword) :: openings) node) :
    ReadsBody limit refusals (nestedAt limit (depth + 1) openings) content := by
  intro β enclosure keyword terminators word onwards lexemes stop result names ends listed accepts
  show Accepts refusals
    (bodyAt limit depth ((enclosure, keyword) :: openings) terminators >>= onwards) _ _ _ _
  rw [bodyAt_eq, bind_assoc]
  apply Accepts.size
  intro budget turns
  apply nodes_accepts ends known (reads enclosure keyword) turns [] (by simp)
  intro budget read tail same shallow
  cases budget with
  | zero => exact absurd tail (Nat.not_lt_zero _)
  | succ budget =>
      rw [nodes, bind_assoc]
      apply Accepts.current
      rintro ⟨kind, value, mark⟩ sameOpen
      obtain ⟨rfl, rfl⟩ := Prod.mk.inj sameOpen
      show Accepts refusals ((next >>= _) >>= _) _ _ _ _
      rw [bind_assoc]
      apply Accepts.next (fun lexeme => lexeme = (.keyword, word)) (fun _ _ => rfl)
      intro token sameToken
      have stops : (token.kind = .keyword && terminators.contains token.value) = true := by
        have kind : token.kind = .keyword := congrArg Prod.fst sameToken
        have value : token.value = word := congrArg Prod.snd sameToken
        simpa [kind, value] using listed
      rw [if_pos stops, pure_bind]
      exact accepts _ token (by simpa using same) shallow sameToken

/-- The nodes that are not text are read wherever this many levels are left. -/
def ReadsNodes (limit : Int) (refusals : Refusal → Prop) (inside : Bool) (content : List Node) :
    Prop :=
  ∀ depth openings, (∀ node ∈ content, ∀ inner ∈ node.bodies, Node.HasRoom depth inner) →
    (inside = false → openings = []) →
      ∀ node ∈ content, node.isText = false → ReadsNode limit refusals depth openings node

theorem ReadsNodes.body {limit : Int} {content : List Node} {depth : Nat}
    {openings : List Opening} (reads : ReadsNodes limit refusals true content)
    (known : Node.BodyWellFormed true content) (room : Node.HasRoom depth content) :
    ReadsBody limit refusals (nestedAt limit depth openings) content := by
  obtain ⟨less, rfl, within⟩ := room
  exact readsBody_of_nodes known fun enclosure keyword =>
    reads less _ (fun _ member _ part => within.part member part) (fun never => by cases never)

mutual

/-- The lexemes of a node are read as the node if its expressions are within the limit, and only
then. -/
theorem node_reads (limit : Int) : ∀ node : Node, node.WellFormed → node.isText = false →
    CutUnless limit refusals (node.Throughout (Node.Shallow limit.toNat)) → ∀ depth openings,
      (∀ inner ∈ node.bodies, Node.HasRoom depth inner) → (node.isParent → openings = []) →
        ReadsNode limit refusals depth openings node
  | .output expr _, known, _, cut, depth, openings, _, _ =>
    (output_accepts known (cut.mono Node.throughout_output_iff.mp)).mono (fun _ _ => trivial)
      fun _ holds => ⟨holds.1, Node.throughout_output_iff.mpr holds.2⟩
  | .condition test body branches otherwise _, known, _, cut, depth, openings, rooms, _ => by
    have parts := cut.mono Node.throughout_condition_iff.mp
    have head := parts.mono And.left
    have tail := parts.mono And.right
    obtain ⟨room, further⟩ := List.forall_mem_cons.mp rooms
    obtain ⟨branchRooms, restRoom⟩ := List.forall_mem_append.mp further
    rw [ReadsNode, nodeLexemes, Node.blockNames]
    simp only [directiveLexemes, List.cons_append, List.append_assoc, List.nil_append]
    exact statement_accepts (fun _ _ _ _ => rfl) (condition_accepts known.1 (head.mono And.left)
      ((nodes_read limit true body known.2.1 (head.mono And.right)).body known.2.1 room)
      (branches_read limit branches known.2.2.1 (tail.mono And.left) depth openings
        (List.forall_mem_map.mp branchRooms))
      (option_reads limit otherwise known.2.2.2 (tail.mono And.right) depth openings restRoom) _)
  | .loop targets iterable body otherwise _, known, _, cut, depth, openings, rooms, _ => by
    have parts := cut.mono Node.throughout_loop_iff.mp
    have inside := parts.mono And.right
    obtain ⟨room, restRoom⟩ := List.forall_mem_cons.mp rooms
    rw [ReadsNode, nodeLexemes]
    simp only [directiveLexemes, List.cons_append, List.append_assoc, List.nil_append]
    exact statement_accepts (fun _ _ _ _ => rfl) (loop_accepts known.1 known.2.1
      (parts.mono And.left)
      ((nodes_read limit true body known.2.2.1 (inside.mono And.left)).body known.2.2.1 room)
      (option_reads limit otherwise known.2.2.2 (inside.mono And.right) depth openings restRoom) _)
  | .binding name value _, known, _, cut, depth, openings, _, _ =>
    statement_accepts (fun _ _ _ _ => rfl) fun keyword =>
      (binding_accepts known.2 (cut.mono Node.throughout_binding_iff.mp) keyword).mono
        (fun _ _ => trivial) fun _ holds => ⟨holds.1, Node.throughout_binding_iff.mpr holds.2⟩
  | .block name body _, known, _, cut, depth, openings, rooms, _ => by
    rw [ReadsNode, nodeLexemes]
    simp only [directiveLexemes, List.cons_append, List.nil_append]
    exact statement_accepts (fun _ _ _ _ => rfl) (block_accepts
      ((nodes_read limit true body known.2 (cut.mono Node.throughout_block_iff.mp)).body known.2
        (List.forall_mem_singleton.mp rooms)) _)
  | .parent name _, _, _, _, depth, openings, _, top => by
    rw [top rfl]
    exact statement_accepts (fun _ _ _ _ => rfl) fun keyword =>
      (parent_accepts name keyword).mono (fun _ _ => trivial)
        fun _ same => ⟨same, (Node.throughout_bare_iff rfl).mpr (List.forall_mem_nil _)⟩
  | .inclusion name bindings _, known, _, cut, depth, openings, _, _ =>
    statement_accepts (fun _ _ _ _ => rfl) fun keyword =>
      (inclusion_accepts known (cut.mono Node.throughout_inclusion_iff.mp) keyword).mono
        (fun _ _ => trivial) fun _ holds => ⟨holds.1, Node.throughout_inclusion_iff.mpr holds.2⟩

theorem nodes_read (limit : Int) (inside : Bool) : ∀ content : List Node,
    Node.BodyWellFormed inside content →
      CutUnless limit refusals (Node.BodyShallow limit.toNat content) →
        ReadsNodes limit refusals inside content
  | [], _, _, _, _, _, _ => by simp
  | node :: content, known, cut, depth, openings, rooms, top => by
    have parts := cut.mono Node.bodyThroughout_cons.mp
    obtain ⟨room, roomsRest⟩ := List.forall_mem_cons.mp rooms
    have first := node_reads limit node known.1
    have others := nodes_read limit inside content known.2.2.2 (parts.mono And.right) depth openings
      roomsRest top
    refine List.forall_mem_cons.mpr ⟨fun noText => ?_, others⟩
    apply first noText (parts.mono And.left) depth openings room
    intro parent
    apply top
    cases inside with
    | false => rfl
    | true =>
        have never := known.2.1 rfl
        rw [parent] at never
        cases never

theorem branches_read (limit : Int) : ∀ branches : List Branch,
    Node.BranchesWellFormed branches →
      CutUnless limit refusals (∀ branch ∈ branches, branch.test.nesting < limit.toNat ∧
        Node.BodyShallow limit.toNat branch.body) →
      ∀ depth openings, (∀ branch ∈ branches, Node.HasRoom depth branch.body) →
        ∀ branch ∈ branches, ReadsBranch limit refusals (nestedAt limit depth openings) branch
  | [], _, _, _, _, _ => by simp
  | .mk test body _ :: branches, known, cut, depth, openings, rooms => by
    have parts := cut.mono List.forall_mem_cons.mp
    have head := parts.mono And.left
    obtain ⟨room, roomsRest⟩ := List.forall_mem_cons.mp rooms
    have reads := nodes_read limit true body known.1.2 (head.mono And.right)
    exact List.forall_mem_cons.mpr
      ⟨⟨known.1.1, head.mono And.left, reads.body known.1.2 room⟩,
      branches_read limit branches known.2 (parts.mono And.right) depth openings roomsRest⟩

theorem option_reads (limit : Int) : ∀ otherwise : Option (List Node),
    Node.OptionWellFormed otherwise →
      CutUnless limit refusals (∀ body ∈ otherwise, Node.BodyShallow limit.toNat body) →
      ∀ depth openings, (∀ body ∈ otherwise.toList, Node.HasRoom depth body) →
        ∀ body ∈ otherwise, ReadsBody limit refusals (nestedAt limit depth openings) body
  | none, _, _, _, _, _ => by simp
  | some body, known, cut, depth, openings, rooms => by
    rintro _ ⟨⟩
    exact (nodes_read limit true body known (cut.mono fun all => all body rfl)).body known
      (List.forall_mem_singleton.mp rooms)

end

/-- The end of input ends a body in which nothing is open. -/
theorem nodes_end {whole : Parser Expr} {nested : BodyParser} {terminators : List String}
    {budget : Nat} {read : List Node} :
    Accepts refusals (nodes whole nested [] terminators budget read) []
      (fun lexeme => lexeme.1 = .endOfInput) (fun all => all.1 = read.reverse) := by
  have finished : Accepts refusals (finish [] read) [] (fun lexeme => lexeme.1 = .endOfInput)
      (fun all => all.1 = read.reverse) :=
    Accepts.currentEnd fun _ _ => Accepts.pure rfl
  cases budget with
  | zero => exact finished
  | succ budget =>
      rw [nodes]
      apply Accepts.currentEnd
      intro token last
      have kind : token.kind = .endOfInput := last
      rw [kind]
      exact finished

/-- A whole template that is one output. -/
theorem bodyAt_output {limit : Int} {depth : Nat} {inside : List Lexeme} {holds : Expr → Prop}
    (accepts : Accepts refusals (expression limit) inside EndsExpression holds) :
    Accepts refusals (bodyAt limit depth [] []) (outputLexemes inside)
      (fun lexeme => lexeme.1 = .endOfInput)
      (fun read => ∃ expr position, read.1 = [.output expr position] ∧ holds expr) := by
  have single : Accepts refusals (output (expression limit)) (outputLexemes inside)
      (fun _ => True) (fun read => ∃ expr position, read = .output expr position ∧ holds expr) :=
    output_reads accepts
  rw [bodyAt_eq]
  apply Accepts.size
  intro budget turns
  cases budget with
  | zero => exact absurd turns (Nat.not_lt_zero _)
  | succ budget =>
      rw [nodes, ← List.append_nil (outputLexemes _)]
      apply Accepts.current
      rintro ⟨kind, value, mark⟩ same
      obtain ⟨rfl, rfl⟩ := Prod.mk.inj same
      refine Accepts.bind single ?_ (fun _ _ => trivial)
      rintro _ ⟨expr, position, rfl, good⟩
      exact nodes_end.mono (fun _ last => last) fun read ends => ⟨expr, position, ends, good⟩

/-- The lexemes of a whole template are read as its body, up to the end of input, if its expressions
are within the limit, and only then. -/
theorem bodyAt_accepts {limit : Int} {content : List Node}
    (known : Node.BodyWellFormed false content) (within : Node.NestsWithin limit.toNat content)
    (cut : CutUnless limit refusals (Node.BodyShallow limit.toNat content)) :
    Accepts refusals (bodyAt limit limit.toNat [] []) (bodyLexemes content)
      (fun lexeme => lexeme.1 = .endOfInput)
      (fun read => Node.unplacedBody read.1 = Node.unplacedBody content ∧
        Node.BodyShallow limit.toNat content) (Node.bodyBlockNames content) := by
  have reads := nodes_read limit false content known cut limit.toNat []
    (fun _ member _ part => within.part member part) (fun _ => rfl)
  have ends : ([] : List String) ⊆ bodyEnds := List.nil_subset _
  have whole : Accepts refusals (bodyAt limit limit.toNat [] [] >>= pure)
      (bodyLexemes content ++ []) (fun lexeme => lexeme.1 = .endOfInput)
      (fun read => Node.unplacedBody read.1 = Node.unplacedBody content ∧
        Node.BodyShallow limit.toNat content)
      (Node.bodyBlockNames content ++ []) := by
    rw [bodyAt_eq, bind_assoc]
    apply Accepts.size
    intro budget turns
    apply nodes_accepts ends known reads turns [] (by simp)
    intro budget read _ same shallow
    rw [bind_pure]
    refine nodes_end.mono (fun _ last => last) fun all ends => ⟨?_, shallow⟩
    rw [ends]
    simpa using same
  rwa [bind_pure, List.append_nil, List.append_nil] at whole

end Grammar

end Templating
