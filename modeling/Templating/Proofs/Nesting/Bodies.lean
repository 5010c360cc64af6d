import Templating.Proofs.Nesting.Directives

/-!
Bodies are read as the machine takes their directives, at every depth of nesting that is left.
-/

namespace Templating.Nesting

open Grammar Templating.Parser Element
open Node (bodyPieces)
open Piece (joined joinOnto)

variable {limit : Int} {name : String} {last : Token} {stack : List Frame}
  {elements : List (Element limit name)} {cursor : Cursor}

/-- The pieces of nodes that have been read, the last of which comes first, as do the pieces. -/
def reading (before : List Node) : List Piece :=
  (bodyPieces before.reverse).reverse

theorem reading_cons (node : Node) (before : List Node) :
    reading (node :: before) = node.pieces.reverse ++ reading before := by
  rw [reading, List.reverse_cons, Node.bodyPieces_append, List.reverse_append]
  simp [reading, bodyPieces]

/-- Text joins the node before it just where the pieces join. -/
theorem reading_appendText (content : String) (position : Option Position) (before : List Node) :
    reading (appendText content position before) =
      joinOnto (reading before) (.text content position) := by
  cases before with
  | nil => rfl
  | cons node before =>
      cases node <;>
        simp [appendText, reading_cons, Node.pieces, joinOnto, List.reverse_append]

/-- A node that starts and ends apart from text is what has been used. -/
theorem reading_node {node : Node} {before : List Node} {after : List Frame}
    {used left : List (Element limit name)} (read : IsNode stack node after used left) :
    reading (node :: before) = (allPieces used).foldl joinOnto (reading before) := by
  rw [reading_cons, read.node, Piece.foldl_joinOnto read.apart]

theorem finish_reads (ready : Ready last stack ([] : List (Element limit name)) cursor)
    (before : List Node) :
    Reads last stack ([] : List (Element limit name)) (IsBody stack (reading before))
      (finish (openings stack) before cursor) := by
  cases stack with
  | nil =>
      refine .given _ cursor [] [] [] rfl ready rfl ⟨rfl, .inl ⟨rfl, rfl⟩, rfl⟩
  | cons frame outer => exact .refused _ rfl

section

variable {whole : Parser Expr} {nested : BodyParser} {enclosing : List Opening}
  {words : List String}

theorem nodes_text {token : Token} (kind : token.kind = .text) (budget : Nat) (before : List Node)
    (cursor : Cursor) (behind : List Token) :
    nodes whole nested enclosing words (budget + 1) before (cursor.before (token :: behind)) =
      nodes whole nested enclosing words budget
        (appendText token.value (some (token.position cursor.template)) before)
        (cursor.before behind) := by
  have noEnd : token.kind ≠ .endOfInput := by rw [kind]; decide
  rw [nodes, bind_apply, current_apply, Outcome.ok_bind, Cursor.current_before_cons]
  simp only [kind]
  rw [bind_apply, advance_apply, Outcome.ok_bind, Cursor.advance_before_cons cursor _ noEnd,
    bind_apply, positionOf_apply, Outcome.ok_bind]
  rfl

theorem nodes_output {opener close : Token} {inside behind : List Token} {expr : Expr}
    (opens : opener.kind = .expressionOpen) (closes : close.kind = .expressionClose)
    (reads : whole (cursor.before (inside ++ close :: behind)) =
      .ok (expr, cursor.before (close :: behind))) (budget : Nat) (before : List Node) :
    nodes whole nested enclosing words (budget + 1) before
        (cursor.before (opener :: (inside ++ close :: behind))) =
      nodes whole nested enclosing words budget
        (.output expr (some (opener.position cursor.template)) :: before)
        (cursor.before behind) := by
  have noEnd : opener.kind ≠ .endOfInput := by rw [opens]; decide
  have noEndClose : close.kind ≠ .endOfInput := by rw [closes]; decide
  have read : output whole (cursor.before (opener :: (inside ++ close :: behind))) =
      .ok (.output expr (some (opener.position cursor.template)), cursor.before behind) := by
    rw [output, bind_apply, advance_apply, Outcome.ok_bind, Cursor.current_before_cons,
      Cursor.advance_before_cons cursor _ noEnd, bind_apply, reads, Outcome.ok_bind, bind_apply,
      expect_apply, Cursor.current_before_cons, if_pos closes,
      Cursor.advance_before_cons cursor _ noEndClose, Outcome.ok_bind]
    rfl
  rw [nodes, bind_apply, current_apply, Outcome.ok_bind, Cursor.current_before_cons]
  simp only [opens]
  rw [bind_apply, read, Outcome.ok_bind]

/-- A directive whose word is listed ends the body; any other is read as a node. -/
theorem nodes_directive {opener keyword : Token} (opens : opener.kind = .blockOpen)
    (isKeyword : keyword.kind = .keyword) (budget : Nat) (before : List Node) (cursor : Cursor)
    (behind : List Token) :
    nodes whole nested enclosing words (budget + 1) before
        (cursor.before (opener :: keyword :: behind)) =
      if keyword.value ∈ words then
        .ok ((before.reverse, keyword), cursor.before (opener :: keyword :: behind))
      else (do
        let node ← statement whole nested enclosing
        nodes whole nested enclosing words budget (node :: before))
          (cursor.before (opener :: keyword :: behind)) := by
  rw [nodes, bind_apply, current_apply, Outcome.ok_bind, Cursor.current_before_cons]
  simp only [opens]
  rw [bind_apply, next_apply, Outcome.ok_bind, Cursor.next_before_cons]
  by_cases stops : keyword.value ∈ words
  · rw [if_pos stops, if_pos (by simpa [isKeyword] using stops)]
    rfl
  · rw [if_neg stops, if_neg (by simpa [isKeyword] using stops)]

end

theorem nodes_reads {nested : BodyParser} (ends : last.kind = .endOfInput)
    (bodies : ReadsBodies limit name last stack nested) {budget : Nat} (before : List Node)
    (ready : Ready last stack elements cursor) (turns : (allTokens elements).length < budget) :
    Reads last stack elements (IsBody stack (reading before))
      (nodes (expression limit) nested (openings stack) (terminators stack) budget before
        cursor) := by
  induction budget generalizing before elements cursor with
  | zero => exact absurd turns (Nat.not_lt_zero _)
  | succ budget ih =>
      cases elements with
      | nil =>
          have current : cursor.current = last := by rw [ready.eq_before]; rfl
          rw [nodes, bind_apply, current_apply, Outcome.ok_bind, current]
          simp only [ends]
          exact finish_reads ready before
      | cons element rest =>
          have fewer : ∀ {left : List (Element limit name)}, (allTokens left).length <
              (allTokens (element :: rest)).length → (allTokens left).length < budget :=
            fun less => Nat.lt_of_lt_of_le less (Nat.le_of_lt_succ turns)
          have reads := element.reads
          cases shape : element.item with
          | text token =>
              rw [shape] at reads
              obtain ⟨kind, piece⟩ := Item.of_read?_text reads
              have noKeyword : element.item.keyword? = none := by rw [shape]; rfl
              rw [ready.eq_before, allTokens_text shape, nodes_text kind, ready.template]
              apply Reads.passed noKeyword
              apply (ih _ (ready.passed noKeyword) (fewer (allTokens_lt element [] rest))).mono
              intro read after used left body
              refine ⟨body.same, body.ends, ?_⟩
              rw [body.nodes, reading_appendText, allPieces_cons, List.foldl_cons, piece]
          | output opener inside close =>
              rw [shape] at reads
              obtain ⟨opens, closes, expr, piece, holds⟩ := Item.of_read?_output reads
              have noKeyword : element.item.keyword? = none := by rw [shape]; rfl
              have enough : inside.length < cursor.size := by
                have enough := ready.enough
                rw [allTokens_cons, shape, List.length_append] at enough
                simp only [Item.tokens, List.length_cons, List.length_append] at enough
                omega
              rw [ready.eq_before, allTokens_output shape,
                nodes_output opens closes (holds cursor ready.template enough _), ready.template]
              apply Reads.passed noKeyword
              apply (ih _ (ready.passed noKeyword) (fewer (allTokens_lt element [] rest))).mono
              intro read after used left body
              refine ⟨body.same, body.ends, ?_⟩
              rw [body.nodes, reading_cons, allPieces_cons, List.foldl_cons, piece,
                Piece.joinOnto_apart rfl]
              rfl
          | directive opener keyword inside close =>
              rw [shape] at reads
              obtain ⟨opens, isKeyword, _⟩ := Item.of_read?_directive reads
              have here := ready.eq_before
              rw [allTokens_directive shape] at here
              rw [here, nodes_directive opens isKeyword, ← here]
              split
              case isTrue stops =>
                exact .given _ cursor stack [] (element :: rest) rfl ready rfl
                  ⟨rfl, .inr ⟨element, rest, opener, inside, close, rfl, shape, stops⟩, rfl⟩
              case isFalse goesOn =>
                apply Reads.bind (statement_reads bodies ready shape goesOn)
                intro node cursor after used left split readyLeft read
                obtain rfl := read.same
                obtain ⟨first, others, rfl⟩ := List.exists_cons_of_ne_nil read.some
                rw [split] at fewer
                apply (ih _ readyLeft (fewer (allTokens_lt first others left))).mono
                intro all final more behind body
                refine ⟨body.same, body.ends, ?_⟩
                rw [body.nodes, reading_node read, allPieces_append, List.foldl_append]

/-- With levels left for what may still be opened, bodies are read as the machine says. -/
theorem bodyAt_reads (ends : last.kind = .endOfInput) {depth : Nat}
    (levels : stack.length + depth = limit.toNat) (ready : Ready last stack elements cursor) :
    Reads last stack elements (IsBody stack [])
      (bodyAt limit depth (openings stack) (terminators stack) cursor) := by
  induction depth generalizing stack elements cursor with
  | zero =>
      have bodies : ReadsBodies limit name last stack (nestedAt limit 0 (openings stack)) := by
        intro stage keyword elements cursor tooDeep
        have opened := Nat.le_trans (length_le_peak _ _) tooDeep.shallow
        rw [List.length_cons] at opened
        omega
      rw [bodyAt_eq]
      exact nodes_reads ends bodies [] ready ready.enough
  | succ depth ih =>
      have bodies : ReadsBodies limit name last stack
          (nestedAt limit (depth + 1) (openings stack)) := by
        intro stage keyword elements cursor ready
        exact ih (by rw [List.length_cons]; omega) ready
      rw [bodyAt_eq]
      exact nodes_reads ends bodies [] ready ready.enough

end Templating.Nesting
