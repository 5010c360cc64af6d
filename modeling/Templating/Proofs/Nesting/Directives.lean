import Templating.Proofs.Nesting.Steps

/-!
Every directive is read as the machine takes it: one that encloses bodies together with them, given
that each body is read up to the first directive that continues or ends it.
-/

namespace Templating

namespace Nesting

open Grammar Templating.Parser Element
open Node (bodyPieces branchesPieces optionPieces)
open Piece (joined joinOnto StartsApart)

variable {limit : Int} {name : String} {last : Token} {β : Type}
  {stack outer : List Frame} {element : Element limit name}
  {elements left rest : List (Element limit name)} {cursor : Cursor}

/-- What comes next is a directive with this keyword, which the innermost open directive takes. -/
def EndsAt (stack : List Frame) (left : List (Element limit name)) (keyword : Token) : Prop :=
  ∃ element others opener inside close, left = element :: others ∧
    element.item = .directive opener keyword inside close ∧ keyword.value ∈ terminators stack

/-- A body has been read: with these pieces before it, its nodes are what has been used. -/
structure IsBody (stack : List Frame) (before : List Piece) (read : List Node × Token)
    (after : List Frame) (used left : List (Element limit name)) : Prop where
  same : after = stack
  ends : (stack = [] ∧ left = []) ∨ EndsAt stack left read.2
  nodes : (bodyPieces read.1).reverse = (allPieces used).foldl joinOnto before

/-- A node has been read, which is what has been used. -/
structure IsNode (stack : List Frame) (node : Node) (after : List Frame)
    (used left : List (Element limit name)) : Prop where
  same : after = stack
  some : used ≠ []
  apart : StartsApart (allPieces used)
  node : node.pieces = joined (allPieces used)

/-- The parser reads the body of every directive that is opened. -/
def ReadsBodies (limit : Int) (name : String) (last : Token) (stack : List Frame)
    (nested : BodyParser) : Prop :=
  ∀ (stage : Stage) (keyword : Token) (elements : List (Element limit name)) (cursor : Cursor),
    Ready last (⟨stage, keyword⟩ :: stack) elements cursor →
      Reads last (⟨stage, keyword⟩ :: stack) elements (IsBody (⟨stage, keyword⟩ :: stack) [])
        (nested stage.enclosure keyword (stage.moves.map (·.1)) cursor)

theorem IsBody.endsAt {frame : Frame} {before : List Piece} {read : List Node × Token}
    {after : List Frame} {used left : List (Element limit name)}
    (body : IsBody (frame :: outer) before read after used left) :
    EndsAt (frame :: outer) left read.2 := by
  rcases body.ends with ⟨none, _⟩ | ends
  · cases none
  · exact ends

theorem IsBody.pieces_eq {read : List Node × Token} {after : List Frame}
    {used left : List (Element limit name)} (body : IsBody stack [] read after used left) :
    bodyPieces read.1 = joined (allPieces used) := by
  rw [joined, ← body.nodes, List.reverse_reverse]

theorem startsApart_of_directive {told : Directive} {position : Option Position}
    (piece : element.piece = .directive told position) :
    StartsApart (allPieces (element :: rest)) := by
  rw [allPieces_cons, piece]
  rintro _ ⟨⟩
  rfl

theorem joined_ending {told : Directive} {position : Option Position}
    (piece : element.piece = .directive told position) :
    joined (allPieces [element]) = [.directive told position] := by
  rw [allPieces_cons, piece]
  rfl

theorem loop_eq (whole : Parser Expr) (nested : BodyParser) (keyword : Token) :
    loop whole nested keyword = (do
      let _ ← advance
      let (targets, iterable) ← loopHeading whole
      endTag
      let (nodes, terminator) ← nested .loop keyword ["else", "endfor"]
      let rest ← otherwise (nested .loop keyword) terminator "endfor"
      let _ ← directive "endfor"
      endTag
      return .loop targets iterable nodes rest (← positionOf keyword)) := by
  rw [loop]
  simp only [loopHeading, bind_assoc]
  apply bind_congr
  intro _
  apply bind_congr
  intro targets
  apply bind_congr
  intro word
  split
  · simp only [bind_assoc, pure_bind]
  · rfl

theorem closingName_apply {close : Token} (closes : close.kind = .blockClose) (block : String)
    (cursor : Cursor) (behind : List Token) :
    closingName block (cursor.before (close :: behind)) =
      .ok ((), cursor.before (close :: behind)) := by
  have noName : ¬ close.kind = .identifier := by rw [closes]; decide
  rw [closingName, bind_apply, current_apply, Outcome.ok_bind, Cursor.current_before_cons,
    if_neg noName]
  rfl

/-- The directive is come to its end, which has this word. -/
def Closing (outer : List Frame) (keyword : Token) (word : String) (after : List Frame)
    (left : List (Element limit name)) : Prop :=
  ∃ stage token, after = ⟨stage, keyword⟩ :: outer ∧ stage.moves.lookup word = some none ∧
    token.value = word ∧ EndsAt after left token

/-- At its end the directive is given as a node. -/
theorem closing_reads {make : Option Position → Node} {keyword : Token} {word : String}
    {told : Directive} {after : List Frame}
    {goal : Node → List Frame → List (Element limit name) → List (Element limit name) → Prop}
    (ready : Ready last after left cursor) (closing : Closing outer keyword word after left)
    (bare : bareWords.lookup word = some told)
    (holds : ∀ ending others, ending.piece = .directive told none →
      goal (make (some (keyword.position name))) outer [ending] others) :
    Reads last after left goal ((do
      let _ ← directive word
      endTag
      return make (← positionOf keyword)) cursor) := by
  obtain ⟨stage, token, rfl, endTaken, value, ending, others, opener, inside, close, rfl, shape,
    listed⟩ := closing
  apply closed_reads ready shape value bare (take_move listed (value.symm ▸ endTaken))
  intro ended cursor ready
  rw [bind_apply, positionOf_apply, Outcome.ok_bind, ready.template]
  exact .given _ cursor outer [] others rfl ready rfl (holds ending others ended)

section

variable {nested : BodyParser} (bodies : ReadsBodies limit name last outer nested)

include bodies

theorem otherwise_reads (stage elseStage : Stage) (endWord : String)
    (elseTaken : stage.moves.lookup "else" = some (some elseStage))
    (endTaken : stage.moves.lookup endWord = some none)
    (onlyEnd : elseStage.moves = [(endWord, none)]) (same : elseStage.enclosure = stage.enclosure)
    {keyword terminator : Token} (ready : Ready last (⟨stage, keyword⟩ :: outer) left cursor)
    (ends : EndsAt (⟨stage, keyword⟩ :: outer) left terminator)
    (words : terminator.value = "else" ∨ terminator.value = endWord) :
    Reads last (⟨stage, keyword⟩ :: outer) left
      (fun option after used rest => Closing outer keyword endWord after rest ∧
        optionPieces option = joined (allPieces used) ∧ StartsApart (allPieces used))
      (otherwise (nested stage.enclosure keyword) terminator endWord cursor) := by
  rw [otherwise]
  by_cases goesOn : terminator.value = "else"
  · rw [if_pos goesOn]
    obtain ⟨element, others, opener, inside, close, rfl, shape, listed⟩ := ends
    have taken := take_move listed (goesOn.symm ▸ elseTaken)
    apply closed_reads ready shape goesOn rfl taken
    intro piece cursor ready
    have reads := bodies elseStage keyword others cursor ready
    rw [onlyEnd, same] at reads
    apply Reads.bind reads
    rintro ⟨nodes, token⟩ cursor after used rest split ready body
    have closes := body.endsAt
    have closing : token.value = endWord := by
      obtain ⟨_, _, _, _, _, _, _, listed⟩ := closes
      simpa [terminators, onlyEnd] using listed
    refine .given _ cursor after [] rest rfl ready rfl ⟨⟨elseStage, token, body.same, ?_, closing,
      body.same ▸ closes⟩, ?_, ?_⟩
    · simp [onlyEnd]
    · rw [optionPieces, body.pieces_eq, List.append_nil, allPieces_cons, piece,
        Piece.joined_cons rfl]
    · exact startsApart_of_directive piece
  · rw [if_neg goesOn]
    have closing := words.resolve_left goesOn
    exact .given none cursor _ [] left rfl ready rfl
      ⟨⟨stage, terminator, rfl, endTaken, closing, ends⟩, rfl, by simp [allPieces, StartsApart]⟩

theorem branches_reads {keyword : Token} {budget : Nat} {before : List Branch} {terminator : Token}
    (ready : Ready last (⟨.conditionBody, keyword⟩ :: outer) left cursor)
    (ends : EndsAt (⟨.conditionBody, keyword⟩ :: outer) left terminator)
    (turns : (allTokens left).length < budget) :
    Reads last (⟨.conditionBody, keyword⟩ :: outer) left
      (fun read after used rest => after = ⟨.conditionBody, keyword⟩ :: outer ∧
        EndsAt after rest read.2 ∧ read.2.value ≠ "elif" ∧
        branchesPieces read.1 = branchesPieces before ++ joined (allPieces used) ∧
        StartsApart (allPieces used))
      (branches (expression limit) (nested .condition keyword) budget terminator before
        cursor) := by
  induction budget generalizing before terminator left cursor with
  | zero => exact absurd turns (Nat.not_lt_zero _)
  | succ budget ih =>
      rw [branches]
      by_cases goesOn : terminator.value = "elif"
      · rw [if_pos goesOn]
        obtain ⟨element, others, opener, inside, close, rfl, shape, listed⟩ := ends
        have reads := element.reads
        rw [shape] at reads
        obtain ⟨opens, isKeyword, closes, told, piece, heads⟩ := Item.of_read?_directive reads
        have heading := heads cursor ready.template (inside_lt_size ready shape)
          (allTokens others ++ [last])
        cases told with
        | further test =>
            have stays : Stage.conditionBody.moves.lookup terminator.value =
                some (some .conditionBody) := by
              rw [goesOn]
              rfl
            have taken := take_move listed stays
            have next := ready.taken shape piece taken
            rw [ready.eq_before, allTokens_directive shape, bind_apply,
              directive_apply opens isKeyword goesOn, Outcome.ok_bind, bind_apply, heading.2,
              Outcome.ok_bind, bind_apply, endTag_apply closes, Outcome.ok_bind]
            apply Reads.taken shape taken
            apply Reads.bind (bodies .conditionBody keyword others _ next)
            rintro ⟨nodes, token⟩ cursor after used rest split ready body
            obtain rfl := body.same
            dsimp only
            rw [bind_apply, positionOf_apply, Outcome.ok_bind, ready.template]
            have fewer : (allTokens rest).length < budget := by
              have some := List.length_pos_iff.mpr element.item.tokens_ne_nil
              rw [allTokens_cons, split, allTokens_append, List.length_append,
                List.length_append] at turns
              omega
            apply (ih ready body.endsAt fewer).mono
            rintro ⟨further, final⟩ after more behind ⟨same, endsMore, noElif, all, apart⟩
            refine ⟨same, endsMore, noElif, ?_, startsApart_of_directive piece⟩
            rw [all, Node.branchesPieces_append, branchesPieces, body.pieces_eq, allPieces_cons,
              piece, Piece.joined_cons rfl, allPieces_append, Piece.joined_append apart]
            simp [branchesPieces, Directive.isPlaced]
        | _ => exact absurd (heading.1.symm.trans goesOn) (by decide)
      · rw [if_neg goesOn]
        exact .given _ cursor _ [] left rfl ready rfl
          ⟨rfl, ends, goesOn, by simp [allPieces, joined], by simp [allPieces, StartsApart]⟩

theorem condition_reads {opener keyword close : Token} {inside : List Token} {test : Expr}
    (ready : Ready last outer (element :: rest) cursor)
    (shape : element.item = .directive opener keyword inside close)
    (isKeyword : keyword.kind = .keyword) (closes : close.kind = .blockClose)
    (piece : element.piece = .directive (.condition test) (some (keyword.position name)))
    (heading : ReadsHeading (expression limit) keyword
      (cursor.before (inside ++ close :: (allTokens rest ++ [last])))
      (cursor.before (close :: (allTokens rest ++ [last]))) (.condition test)) :
    Reads last outer (element :: rest) (IsNode outer)
      (condition (expression limit) nested keyword
        (cursor.before (keyword :: (inside ++ close :: (allTokens rest ++ [last]))))) := by
  have opens : Stage.openers.lookup keyword.value = some .conditionBody := by
    rw [heading.1]
    rfl
  have taken := take_opener opens outer
  have next := ready.taken shape piece taken
  rw [condition, bind_apply, advance_keyword isKeyword, Outcome.ok_bind, bind_apply, heading.2,
    Outcome.ok_bind, bind_apply, endTag_apply closes, Outcome.ok_bind]
  apply Reads.taken shape taken
  apply Reads.bind (bodies .conditionBody keyword rest _ next)
  rintro ⟨nodes, terminator⟩ cursor after used left split ready body
  obtain rfl := body.same
  dsimp only
  rw [bind_apply, size_apply, Outcome.ok_bind]
  apply Reads.bind (branches_reads bodies ready body.endsAt ready.enough)
  rintro ⟨further, final⟩ cursor after usedBranches left split ready
    ⟨rfl, ends, noElif, branchesRead, apartBranches⟩
  have words : final.value = "else" ∨ final.value = "endif" := by
    obtain ⟨_, _, _, _, _, _, _, listed⟩ := ends
    simpa [terminators, Stage.moves, noElif] using listed
  apply Reads.bind (otherwise_reads bodies .conditionBody .conditionElse "endif" rfl rfl rfl rfl
    ready ends words)
  rintro rest cursor after usedElse left split ready ⟨closing, restRead, apartElse⟩
  apply closing_reads ready closing rfl
  intro ending others ended
  refine ⟨rfl, List.cons_ne_nil _ _, startsApart_of_directive piece, ?_⟩
  have apartEnd : StartsApart (allPieces [ending]) := startsApart_of_directive ended
  have apartRest := apartElse.append apartEnd
  have apart := apartBranches.append apartRest
  rw [Node.pieces, body.pieces_eq, branchesRead, restRead, allPieces_cons, piece,
    Piece.joined_cons rfl, allPieces_append, allPieces_append, allPieces_append,
    Piece.joined_append apart, Piece.joined_append apartRest, Piece.joined_append apartEnd,
    joined_ending ended]
  simp only [branchesPieces, List.append_assoc, List.nil_append]

theorem loop_reads {opener keyword close : Token} {inside : List Token} {targets : List String}
    {iterable : Expr} (ready : Ready last outer (element :: rest) cursor)
    (shape : element.item = .directive opener keyword inside close)
    (isKeyword : keyword.kind = .keyword) (closes : close.kind = .blockClose)
    (piece : element.piece = .directive (.loop targets iterable) (some (keyword.position name)))
    (heading : ReadsHeading (expression limit) keyword
      (cursor.before (inside ++ close :: (allTokens rest ++ [last])))
      (cursor.before (close :: (allTokens rest ++ [last]))) (.loop targets iterable)) :
    Reads last outer (element :: rest) (IsNode outer)
      (loop (expression limit) nested keyword
        (cursor.before (keyword :: (inside ++ close :: (allTokens rest ++ [last]))))) := by
  have opens : Stage.openers.lookup keyword.value = some .loopBody := by
    rw [heading.1]
    rfl
  have taken := take_opener opens outer
  have next := ready.taken shape piece taken
  rw [loop_eq, bind_apply, advance_keyword isKeyword, Outcome.ok_bind, bind_apply, heading.2,
    Outcome.ok_bind]
  dsimp only
  rw [bind_apply, endTag_apply closes, Outcome.ok_bind]
  apply Reads.taken shape taken
  apply Reads.bind (bodies .loopBody keyword rest _ next)
  rintro ⟨nodes, terminator⟩ cursor after used left split ready body
  obtain rfl := body.same
  have ends := body.endsAt
  have words : terminator.value = "else" ∨ terminator.value = "endfor" := by
    obtain ⟨_, _, _, _, _, _, _, listed⟩ := ends
    simpa [terminators, Stage.moves] using listed
  apply Reads.bind (otherwise_reads bodies .loopBody .loopElse "endfor" rfl rfl rfl rfl ready ends
    words)
  rintro rest cursor after usedElse left split ready ⟨closing, restRead, apartElse⟩
  apply closing_reads ready closing rfl
  intro ending others ended
  refine ⟨rfl, List.cons_ne_nil _ _, startsApart_of_directive piece, ?_⟩
  have apartEnd : StartsApart (allPieces [ending]) := startsApart_of_directive ended
  have apartRest := apartElse.append apartEnd
  rw [Node.pieces, body.pieces_eq, restRead, allPieces_cons, piece, Piece.joined_cons rfl,
    allPieces_append, allPieces_append, Piece.joined_append apartRest,
    Piece.joined_append apartEnd, joined_ending ended]
  simp only [List.append_assoc]

theorem block_reads {opener keyword close : Token} {inside : List Token} {block : String}
    (ready : Ready last outer (element :: rest) cursor)
    (shape : element.item = .directive opener keyword inside close)
    (isKeyword : keyword.kind = .keyword) (closes : close.kind = .blockClose)
    (piece : element.piece = .directive (.block block) (some (keyword.position name)))
    (heading : ReadsHeading (expression limit) keyword
      (cursor.before (inside ++ close :: (allTokens rest ++ [last])))
      (cursor.before (close :: (allTokens rest ++ [last]))) (.block block)) :
    Reads last outer (element :: rest) (IsNode outer)
      (Grammar.block nested keyword
        (cursor.before (keyword :: (inside ++ close :: (allTokens rest ++ [last]))))) := by
  obtain ⟨value, token, rfl, read⟩ := heading
  have opens : Stage.openers.lookup keyword.value = some .block := by
    rw [value]
    rfl
  have taken := take_opener opens outer
  have fresh := ready.fresh
  rw [show allBlockNames (element :: rest) = token.value :: allBlockNames rest by
    rw [allBlockNames, allPieces_cons, piece]; rfl] at fresh
  have absent : cursor.blocks.lookup token.value = none :=
    lookup_eq_none fun member => (List.nodup_append.mp fresh).2.2 _ member _ List.mem_cons_self rfl
  have opened : openBlock token (cursor.before (allTokens rest ++ [last])) = .ok ((),
      (cursor.opening ((token.value, token.mark) :: cursor.blocks)).before
        (allTokens rest ++ [last])) :=
    openBlock_fresh absent
  have next := ready.takenOpening shape piece taken
    ((token.value, token.mark) :: cursor.blocks) (List.nodup_middle.mp fresh)
  rw [Grammar.block, bind_apply, advance_keyword isKeyword, Outcome.ok_bind, bind_apply, read,
    Outcome.ok_bind, bind_apply, endTag_apply closes, Outcome.ok_bind]
  dsimp only
  rw [bind_apply, opened, Outcome.ok_bind]
  apply Reads.taken shape taken
  apply Reads.bind (bodies .block keyword rest _ next)
  rintro ⟨nodes, terminator⟩ cursor after used left split ready body
  obtain rfl := body.same
  obtain ⟨ending, others, opener, inside, close, rfl, shape, listed⟩ := body.endsAt
  have word : terminator.value = "endblock" := by
    simpa [terminators, Stage.moves] using listed
  obtain ⟨run, closes, ended⟩ := bareWord_apply ready shape word rfl
  have ends : Stage.block.moves.lookup terminator.value = some none := by
    rw [word]
    rfl
  have taken := take_move listed ends
  dsimp only
  rw [bind_apply, run, Outcome.ok_bind, bind_apply, closingName_apply closes, Outcome.ok_bind,
    bind_apply, endTag_apply closes, Outcome.ok_bind, bind_apply, positionOf_apply,
    Outcome.ok_bind]
  apply Reads.taken shape taken
  have next := ready.taken shape ended taken
  refine .given _ _ outer [] others rfl next rfl
    ⟨rfl, List.cons_ne_nil _ _, startsApart_of_directive piece, ?_⟩
  have apartEnd : StartsApart (allPieces [ending]) := startsApart_of_directive ended
  have named : cursor.template = name := ready.template
  rw [Node.pieces, body.pieces_eq, allPieces_cons, piece, Piece.joined_cons rfl,
    allPieces_append, Piece.joined_append apartEnd, joined_ending ended]
  simp [named]

end

theorem binding_eq (whole : Parser Expr) (keyword : Token) :
    binding whole keyword = (do
      let _ ← advance
      let (name, value) ← bindingHeading whole
      endTag
      return .binding name value (← positionOf keyword)) := by
  simp only [binding, bindingHeading, bind_assoc, pure_bind]

theorem inclusion_eq (whole : Parser Expr) (keyword : Token) :
    inclusion whole keyword = (do
      let _ ← advance
      let (name, bindings) ← inclusionHeading whole
      endTag
      return .inclusion name bindings (← positionOf keyword)) := by
  rw [inclusion]
  simp only [inclusionHeading, bind_assoc]
  apply bind_congr
  intro _
  apply bind_congr
  intro name
  apply bind_congr
  intro token
  split <;> simp only [bind_assoc, pure_bind]

/-- A directive that stands alone is a node of its own. -/
theorem alone_reads {opener keyword close : Token} {inside : List Token} {told : Directive}
    {position : Option Position} {node : Node} (ready : Ready last stack (element :: rest) cursor)
    (shape : element.item = .directive opener keyword inside close)
    (piece : element.piece = .directive told position)
    (noOpener : Stage.openers.lookup keyword.value = none) (noEnd : keyword.value ∉ bodyEnds)
    (same : node.pieces = [.directive told position]) :
    Reads last stack (element :: rest) (IsNode stack)
      (.ok (node, cursor.before (allTokens rest ++ [last]))) := by
  have taken := take_alone noOpener noEnd stack
  refine Reads.taken shape taken (.given node _ stack [] rest rfl
    (ready.taken shape piece taken) rfl ⟨rfl, List.cons_ne_nil _ _,
      startsApart_of_directive piece, ?_⟩)
  rw [same, joined_ending piece]

/-- A directive that does not end the body is read as a node, or refused if the machine does not
take it. -/
theorem statement_reads {nested : BodyParser} (bodies : ReadsBodies limit name last stack nested)
    {opener keyword close : Token} {inside : List Token}
    (ready : Ready last stack (element :: rest) cursor)
    (shape : element.item = .directive opener keyword inside close)
    (goesOn : keyword.value ∉ terminators stack) :
    Reads last stack (element :: rest) (IsNode stack)
      (statement (expression limit) nested (openings stack) cursor) := by
  have reads := element.reads
  rw [shape] at reads
  obtain ⟨opens, isKeyword, closes, told, piece, heads⟩ := Item.of_read?_directive reads
  have heading := heads cursor ready.template (inside_lt_size ready shape)
    (allTokens rest ++ [last])
  have noEnd : opener.kind ≠ .endOfInput := by rw [opens]; decide
  have noName : ¬ keyword.kind = .identifier := by rw [isKeyword]; decide
  rw [ready.eq_before, allTokens_directive shape, statement, bind_apply, advance_apply,
    Outcome.ok_bind, Cursor.advance_before_cons cursor _ noEnd, bind_apply, current_apply,
    Outcome.ok_bind, Cursor.current_before_cons, if_neg noName, if_neg (not_not.mpr isKeyword)]
  have unmatched : keyword.value ∈ bodyEnds →
      verdict stack (keywordTokens (element :: rest)) =
        .error (.unmatched keyword.value (enclosuresOf keyword.value), keyword) := by
    intro ends
    rw [keywordTokens_directive shape]
    exact verdict_untaken (take_untaken ends goesOn)
  cases told with
  | condition test =>
      simp only [heading.1]
      exact condition_reads bodies ready shape isKeyword closes piece heading
  | loop targets iterable =>
      simp only [heading.1]
      exact loop_reads bodies ready shape isKeyword closes piece heading
  | block block =>
      simp only [heading.1]
      exact block_reads bodies ready shape isKeyword closes piece heading
  | binding target value =>
      simp only [heading.1]
      rw [binding_eq, bind_apply, advance_keyword isKeyword, Outcome.ok_bind, bind_apply,
        heading.2, Outcome.ok_bind]
      dsimp only
      rw [bind_apply, endTag_apply closes, Outcome.ok_bind]
      exact alone_reads ready shape piece (by rw [heading.1]; rfl) (by rw [heading.1]; decide)
        (by rw [Node.pieces, Cursor.before_template, ready.template]; rfl)
  | parent parent =>
      obtain ⟨value, token, rfl, read⟩ := heading
      obtain ⟨rfl, _⟩ := ready.leading [] element.piece (allPieces rest) rfl (by rw [piece]; rfl)
      simp only [value]
      rw [Grammar.parent, if_pos (by rfl), bind_apply, advance_keyword isKeyword,
        Outcome.ok_bind, bind_apply, read, Outcome.ok_bind, bind_apply, endTag_apply closes,
        Outcome.ok_bind]
      exact alone_reads ready shape piece (by rw [value]; rfl) (by rw [value]; decide)
        (by rw [Node.pieces, Cursor.before_template, ready.template]; rfl)
  | inclusion template bindings =>
      simp only [heading.1]
      rw [inclusion_eq, bind_apply, advance_keyword isKeyword, Outcome.ok_bind, bind_apply,
        heading.2, Outcome.ok_bind]
      dsimp only
      rw [bind_apply, endTag_apply closes, Outcome.ok_bind]
      exact alone_reads ready shape piece (by rw [heading.1]; rfl) (by rw [heading.1]; decide)
        (by rw [Node.pieces, Cursor.before_template, ready.template]; rfl)
  | further | otherwise | endCondition | endLoop | endBlock =>
      simp only [heading.1] at unmatched ⊢
      exact .refused _ (unmatched (by decide))

end Nesting

end Templating
