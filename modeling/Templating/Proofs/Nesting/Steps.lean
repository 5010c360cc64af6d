import Templating.Proofs.Nesting.Items
import Templating.Proofs.Nesting.Stack

/-!
A parser beside the machine. The parser stands before items that the machine has still to take; it
gives what the items say and comes to items from which the machine's verdict is the same, or it
refuses what the machine refuses.
-/

namespace Templating.Nesting

open Grammar Templating.Parser Element

variable {limit : Int} {name : String} {last : Token} {α β : Type}

/-- The cursor stands before these items with these directives open, and neither their blocks, their
nesting nor a parent that they name is refused. -/
structure Ready (last : Token) (stack : List Frame) (elements : List (Element limit name))
    (cursor : Cursor) : Prop where
  rest : cursor.rest = allTokens elements ++ [last]
  enough : (allTokens elements).length < cursor.size
  template : cursor.template = name
  fresh : (cursor.opened ++ allBlockNames elements).Nodup
  shallow : peak stack (keywordTokens elements) ≤ limit.toNat
  leading : ∀ before parent after, allPieces elements = before ++ parent :: after →
    parent.isParent → stack = [] ∧ ∀ piece ∈ before, piece.isBlankText

/-- Either the parser gives a value with what it has used and what is left, and the verdict is that
on what is left, or it refuses with the verdict. -/
inductive Reads (last : Token) (stack : List Frame) (elements : List (Element limit name))
    (post : α → List Frame → List (Element limit name) → List (Element limit name) → Prop) :
    Except Refusal (α × Cursor) → Prop where
  | given (value : α) (cursor : Cursor) (after : List Frame) (used left : List (Element limit name))
      (split : elements = used ++ left) (ready : Ready last after left cursor)
      (same : verdict stack (keywordTokens elements) = verdict after (keywordTokens left))
      (holds : post value after used left) : Reads last stack elements post (.ok (value, cursor))
  | refused (refusal : Refusal) (same : verdict stack (keywordTokens elements) = .error refusal) :
      Reads last stack elements post (.error refusal)

variable {stack after : List Frame} {element : Element limit name}
  {elements rest : List (Element limit name)} {cursor : Cursor}

theorem Ready.eq_before (ready : Ready last stack elements cursor) :
    cursor = cursor.before (allTokens elements ++ [last]) := by
  rw [← ready.rest]
  rfl

theorem allBlockNames_cons_sublist (element : Element limit name)
    (rest : List (Element limit name)) :
    (allBlockNames rest).Sublist (allBlockNames (element :: rest)) :=
  (List.sublist_cons_self _ _).filterMap _

/-- Past text or an output the same directives are open. -/
theorem Ready.passed (ready : Ready last stack (element :: rest) cursor)
    (noKeyword : element.item.keyword? = none) :
    Ready last stack rest (cursor.before (allTokens rest ++ [last])) := by
  have same : keywordTokens (element :: rest) = keywordTokens rest := by
    rw [keywordTokens, List.filterMap_cons, noKeyword]
    rfl
  refine ⟨rfl, ?_, ready.template,
    ready.fresh.sublist ((List.Sublist.refl _).append (allBlockNames_cons_sublist element rest)),
    same ▸ ready.shallow, ?_⟩
  · have enough := ready.enough
    rw [allTokens_cons, List.length_append] at enough
    exact Nat.lt_of_le_of_lt (Nat.le_add_left _ _) enough
  · intro before parent behind split isParent
    obtain ⟨top, blank⟩ := ready.leading (element.piece :: before) parent behind
      (by rw [allPieces_cons, split, List.cons_append]) isParent
    exact ⟨top, fun piece member => blank piece (List.mem_cons_of_mem _ member)⟩

section

variable {opener keyword close : Token} {inside : List Token} {told : Directive}
  {position : Option Position}

theorem keywordTokens_directive
    (shape : element.item = .directive opener keyword inside close) :
    keywordTokens (element :: rest) = keyword :: keywordTokens rest := by
  rw [keywordTokens, List.filterMap_cons, shape]
  rfl

/-- Past a directive no parent is named any more. -/
theorem Ready.takenOpening (ready : Ready last stack (element :: rest) cursor)
    (shape : element.item = .directive opener keyword inside close)
    (piece : element.piece = .directive told position) (taken : take keyword stack = some after)
    (blocks : List (String × Mark)) (fresh : (blocks.map (·.1) ++ allBlockNames rest).Nodup) :
    Ready last after rest ((cursor.opening blocks).before (allTokens rest ++ [last])) := by
  refine ⟨rfl, ?_, ready.template, fresh, ?_, ?_⟩
  · have enough := ready.enough
    rw [allTokens_cons, List.length_append] at enough
    exact Nat.lt_of_le_of_lt (Nat.le_add_left _ _) enough
  · have shallow := ready.shallow
    rw [keywordTokens_directive shape] at shallow
    exact Nat.le_trans (peak_taken taken) shallow
  · intro before parent behind split isParent
    obtain ⟨_, blank⟩ := ready.leading (element.piece :: before) parent behind
      (by rw [allPieces_cons, split, List.cons_append]) isParent
    have first := blank _ List.mem_cons_self
    rw [piece] at first
    cases first

theorem Ready.taken (ready : Ready last stack (element :: rest) cursor)
    (shape : element.item = .directive opener keyword inside close)
    (piece : element.piece = .directive told position) (taken : take keyword stack = some after) :
    Ready last after rest (cursor.before (allTokens rest ++ [last])) :=
  ready.takenOpening shape piece taken cursor.blocks
    (ready.fresh.sublist
      ((List.Sublist.refl _).append (allBlockNames_cons_sublist element rest)))

end

namespace Reads

variable {first : Except Refusal (α × Cursor)} {run : Except Refusal (β × Cursor)}
  {post : α → List Frame → List (Element limit name) → List (Element limit name) → Prop}
  {goal : β → List Frame → List (Element limit name) → List (Element limit name) → Prop}

theorem mono {post' : α → List Frame → List (Element limit name) → List (Element limit name) → Prop}
    (reads : Reads last stack elements post first)
    (weaker : ∀ value after used left, post value after used left → post' value after used left) :
    Reads last stack elements post' first := by
  cases reads with
  | given value cursor after used left split ready same holds =>
      exact .given value cursor after used left split ready same (weaker _ _ _ _ holds)
  | refused refusal same => exact .refused refusal same

/-- One parser after another. -/
theorem bind {parser : Parser α} {onwards : α → Parser β}
    (reads : Reads last stack elements post (parser cursor))
    (continues : ∀ value cursor after used left, elements = used ++ left →
      Ready last after left cursor → post value after used left →
        Reads last after left (fun result final more => goal result final (used ++ more))
          (onwards value cursor)) :
    Reads last stack elements goal ((parser >>= onwards) cursor) := by
  rw [bind_apply]
  generalize parser cursor = first at reads
  cases reads with
  | given value cursor after used left split ready same holds =>
      have next := continues value cursor after used left split ready holds
      rw [Outcome.ok_bind]
      generalize onwards value cursor = second at next
      cases next with
      | given result last final more behind splitMore readyMore sameMore holdsMore =>
          exact .given result last final (used ++ more) behind
            (by rw [split, splitMore, List.append_assoc]) readyMore (same.trans sameMore) holdsMore
      | refused refusal sameMore => exact .refused refusal (same.trans sameMore)
  | refused refusal same => exact .refused refusal same

/-- A directive that the machine takes comes first. -/
theorem taken {opener keyword close : Token} {inside : List Token}
    (shape : element.item = .directive opener keyword inside close)
    (taken : take keyword stack = some after)
    (reads : Reads last after rest (fun result final used => goal result final (element :: used))
      run) :
    Reads last stack (element :: rest) goal run := by
  have same : verdict stack (keywordTokens (element :: rest)) =
      verdict after (keywordTokens rest) := by
    rw [keywordTokens_directive shape]
    exact verdict_taken taken
  cases reads with
  | given result last final used left split ready sameRest holds =>
      exact .given result last final (element :: used) left (by rw [split, List.cons_append]) ready
        (same.trans sameRest) holds
  | refused refusal sameRest => exact .refused refusal (same.trans sameRest)

/-- Text or an output comes first. -/
theorem passed (noKeyword : element.item.keyword? = none)
    (reads : Reads last stack rest (fun result final used => goal result final (element :: used))
      run) :
    Reads last stack (element :: rest) goal run := by
  have same : keywordTokens (element :: rest) = keywordTokens rest := by
    rw [keywordTokens, List.filterMap_cons, noKeyword]
    rfl
  cases reads with
  | given result last final used left split ready sameRest holds =>
      exact .given result last final (element :: used) left (by rw [split, List.cons_append]) ready
        (by rw [same, sameRest]) holds
  | refused refusal sameRest => exact .refused refusal (by rw [same, sameRest])

end Reads

theorem directive_apply {opener keyword : Token} {word : String} (opens : opener.kind = .blockOpen)
    (isKeyword : keyword.kind = .keyword) (value : keyword.value = word) (cursor : Cursor)
    (behind : List Token) :
    directive word (cursor.before (opener :: keyword :: behind)) =
      .ok (keyword, cursor.before behind) := by
  have noEnd : opener.kind ≠ .endOfInput := by rw [opens]; decide
  have noEndWord : keyword.kind ≠ .endOfInput := by rw [isKeyword]; decide
  have known : keyword.isKeyword word = true := by simp [Token.isKeyword, isKeyword, value]
  rw [directive, bind_apply, expect_apply, Cursor.current_before_cons, if_pos opens,
    Cursor.advance_before_cons cursor _ noEnd, Outcome.ok_bind, bind_apply, current_apply,
    Outcome.ok_bind, Cursor.current_before_cons, if_pos known, advance_apply,
    Cursor.current_before_cons, Cursor.advance_before_cons cursor _ noEndWord]

theorem endTag_apply {close : Token} (closes : close.kind = .blockClose) (cursor : Cursor)
    (behind : List Token) :
    endTag (cursor.before (close :: behind)) = .ok ((), cursor.before behind) := by
  have noEnd : close.kind ≠ .endOfInput := by rw [closes]; decide
  rw [endTag, bind_apply, expect_apply, Cursor.current_before_cons, if_pos closes,
    Cursor.advance_before_cons cursor _ noEnd, Outcome.ok_bind, pure_apply]

theorem advance_keyword {keyword : Token} (isKeyword : keyword.kind = .keyword) (cursor : Cursor)
    (behind : List Token) :
    advance (cursor.before (keyword :: behind)) = .ok (keyword, cursor.before behind) := by
  have noEnd : keyword.kind ≠ .endOfInput := by rw [isKeyword]; decide
  rw [advance_apply, Cursor.current_before_cons, Cursor.advance_before_cons cursor _ noEnd]

theorem allTokens_text {token : Token} (shape : element.item = .text token)
    (rest : List (Element limit name)) :
    allTokens (element :: rest) ++ [last] = token :: (allTokens rest ++ [last]) := by
  rw [allTokens_cons, shape]
  rfl

theorem allTokens_output {opener close : Token} {inside : List Token}
    (shape : element.item = .output opener inside close) (rest : List (Element limit name)) :
    allTokens (element :: rest) ++ [last] =
      opener :: (inside ++ close :: (allTokens rest ++ [last])) := by
  rw [allTokens_cons, shape]
  simp [Item.tokens]

theorem allTokens_directive {opener keyword close : Token} {inside : List Token}
    (shape : element.item = .directive opener keyword inside close)
    (rest : List (Element limit name)) :
    allTokens (element :: rest) ++ [last] =
      opener :: keyword :: (inside ++ close :: (allTokens rest ++ [last])) := by
  rw [allTokens_cons, shape]
  simp [Item.tokens]

theorem inside_lt_size {opener keyword close : Token} {inside : List Token}
    (ready : Ready last stack (element :: rest) cursor)
    (shape : element.item = .directive opener keyword inside close) :
    inside.length < cursor.size := by
  have enough := ready.enough
  rw [allTokens_cons, shape, List.length_append] at enough
  simp only [Item.tokens, List.length_cons, List.length_append] at enough
  omega

/-- The words that stand alone in a directive, and what they say. -/
def bareWords : List (String × Directive) :=
  [("else", .otherwise), ("endif", .endCondition), ("endfor", .endLoop), ("endblock", .endBlock)]

/-- Nothing stands beside a word that stands alone. -/
theorem bare_of_lookup {opener keyword close : Token} {inside : List Token} {told : Directive}
    (ready : Ready last stack (element :: rest) cursor)
    (shape : element.item = .directive opener keyword inside close)
    (bare : bareWords.lookup keyword.value = some told) :
    inside = [] ∧ element.piece = .directive told none := by
  have reads := element.reads
  rw [shape] at reads
  obtain ⟨_, _, _, said, piece, heads⟩ := Item.of_read?_directive reads
  have heading := heads cursor ready.template (inside_lt_size ready shape) []
  have alone : cursor.before [close] = cursor.before (inside ++ [close]) → inside = [] := by
    intro same
    have same : [close] = inside ++ [close] := congrArg Cursor.rest same
    exact List.append_left_eq_self.mp same.symm
  rw [piece]
  cases said with
  | otherwise | endCondition | endLoop | endBlock =>
      obtain ⟨value, same⟩ := heading
      rw [value] at bare
      cases bare
      exact ⟨alone same, rfl⟩
  | _ =>
      obtain ⟨value, _⟩ := heading
      rw [value] at bare
      cases bare

theorem bareWord_apply {opener keyword close : Token} {inside : List Token} {told : Directive}
    {word : String} (ready : Ready last stack (element :: rest) cursor)
    (shape : element.item = .directive opener keyword inside close) (value : keyword.value = word)
    (bare : bareWords.lookup word = some told) :
    directive word cursor =
        .ok (keyword, cursor.before (close :: (allTokens rest ++ [last]))) ∧
      close.kind = .blockClose ∧ element.piece = .directive told none := by
  have reads := element.reads
  rw [shape] at reads
  obtain ⟨opens, isKeyword, closes, _⟩ := Item.of_read?_directive reads
  obtain ⟨rfl, piece⟩ := bare_of_lookup ready shape (value ▸ bare)
  refine ⟨?_, closes, piece⟩
  rw [ready.eq_before, allTokens_directive shape, directive_apply opens isKeyword value]
  rfl

/-- A directive of one word comes next, and the machine takes it. -/
theorem closed_reads {onwards : Parser β} {opener keyword close : Token} {inside : List Token}
    {after : List Frame} {told : Directive} {word : String}
    {goal : β → List Frame → List (Element limit name) → List (Element limit name) → Prop}
    (ready : Ready last stack (element :: rest) cursor)
    (shape : element.item = .directive opener keyword inside close) (value : keyword.value = word)
    (bare : bareWords.lookup word = some told) (taken : take keyword stack = some after)
    (continues : element.piece = .directive told none → ∀ cursor : Cursor,
      Ready last after rest cursor →
        Reads last after rest (fun result final used => goal result final (element :: used))
          (onwards cursor)) :
    Reads last stack (element :: rest) goal
      ((do let _ ← directive word; endTag >>= fun _ => onwards) cursor) := by
  obtain ⟨run, closes, piece⟩ := bareWord_apply ready shape value bare
  rw [bind_apply, run, Outcome.ok_bind, bind_apply, endTag_apply closes, Outcome.ok_bind]
  exact Reads.taken shape taken (continues piece _ (ready.taken shape piece taken))

end Templating.Nesting
