import Templating.Proofs.Grammar.ParsedTemplate
import Templating.Proofs.Grammar.Standing

/-!
Templates stand where their tokens do: every node, every branch and every expression in a template
has the place of a token of its text, and so has the error of a text that spells no template.
-/

namespace Templating

open Node

variable {template : String} {marks : Mark → Prop}

/-- All nodes in the body stand at the marks, however deep. -/
abbrev Node.BodyStands (template : String) (marks : Mark → Prop) : List Node → Prop :=
  BodyThroughout (Node.Stands template marks)

namespace Grammar

open Templating.Parser

theorem endTag_stays : Stays template marks endTag fun _ => True :=
  .bind .expect fun _ _ => .pure trivial

theorem directive_stays (word : String) :
    Stays template marks (directive word) fun token => marks token.mark := by
  refine .bind .expect fun _ _ => .bind .current fun keyword marked => ?_
  split
  · exact .advance
  · exact .unexpected marked

theorem loopTargets_stays : Stays template marks loopTargets fun _ => True := by
  refine .bind .expect fun first _ => .bind .accept fun more _ => ?_
  split
  · refine .bind .expect fun second marked => ?_
    split
    · exact .unexpected marked
    · exact .pure trivial
  · exact .pure trivial

theorem openBlock_stays {name : Token} (marked : marks name.mark) :
    Stays template marks (openBlock name) fun _ => True := by
  intro cursor held
  cases found : cursor.blocks.lookup name.value with
  | some first =>
      rw [openBlock_taken found]
      exact marked
  | none =>
      rw [openBlock_fresh found]
      exact ⟨⟨held.template, held.rest, held.last⟩, trivial⟩

theorem closingName_stays (name : String) : Stays template marks (closingName name) fun _ => True := by
  refine .bind .current fun closing marked => ?_
  split
  · split
    · exact .bind .advance fun _ _ => .pure trivial
    · exact .refuse marked
  · exact .pure trivial

/-- A text that extends another one keeps its place. -/
theorem appendText_stands {content : String} {place : Option Position} {before : List Node}
    (placed : Placed template marks place) (stand : BodyStands template marks before) :
    BodyStands template marks (appendText content place before) := by
  have text {content : String} {place : Option Position} (placed : Placed template marks place) :
      (Node.text content place).Throughout (Node.Stands template marks) :=
    throughout_stands_iff.mpr ⟨stands_iff.mpr ⟨placed, List.forall_mem_nil _, List.forall_mem_nil _⟩,
      List.forall_mem_nil _⟩
  unfold appendText
  split
  case h_1 first rest =>
    obtain ⟨here, others⟩ := bodyThroughout_cons.mp stand
    exact bodyThroughout_cons.mpr
      ⟨text (stands_iff.mp (throughout_stands_iff.mp here).1).1, others⟩
  case h_2 => exact bodyThroughout_cons.mpr ⟨text placed, stand⟩

theorem bodyStands_reverse {body : List Node} (stand : BodyStands template marks body) :
    BodyStands template marks body.reverse :=
  bodyThroughout_iff.mpr fun node member =>
    bodyThroughout_iff.mp stand node (List.mem_reverse.mp member)

/-- What a body and the token behind it stand at. -/
def ReadAt (template : String) (marks : Mark → Prop) (read : List Node × Token) : Prop :=
  BodyStands template marks read.1 ∧ marks read.2.mark

section

variable {whole : Parser Expr} (stays : Stays template marks whole (Expr.Stands template marks))

section

include stays

theorem output_stays :
    Stays template marks (output whole) (Throughout (Node.Stands template marks)) := by
  refine .bind .advance fun opener marked => .bind stays fun expr stands => .bind .expect fun _ _ => ?_
  refine .bind (.position marked) fun place placed => .pure (throughout_stands_iff.mpr ⟨?_, ?_⟩)
  · exact stands_iff.mpr ⟨placed, List.forall_mem_nil _, List.forall_mem_singleton.mpr stands⟩
  · exact List.forall_mem_nil _

theorem binding_stays {keyword : Token} (marked : marks keyword.mark) :
    Stays template marks (binding whole keyword) (Throughout (Node.Stands template marks)) := by
  refine .bind .advance fun _ _ => .bind .expect fun name _ => .bind .expect fun _ _ => ?_
  refine .bind stays fun value stands => .bind endTag_stays fun _ _ => ?_
  refine .bind (.position marked) fun place placed => .pure (throughout_stands_iff.mpr ⟨?_, ?_⟩)
  · exact stands_iff.mpr ⟨placed, List.forall_mem_nil _, List.forall_mem_singleton.mpr stands⟩
  · exact List.forall_mem_nil _

theorem bindingPair_stays :
    Stays template marks (bindingPair whole) fun pair => pair.2.Stands template marks :=
  .bind .expect fun _ _ => .bind .expect fun _ _ => .bind stays fun _ stands => .pure stands

theorem bindingsRest_stays {budget : Nat} {before : List (String × Expr)}
    (stand : ∀ pair ∈ before, pair.2.Stands template marks) :
    Stays template marks (bindingsRest whole budget before) fun pairs =>
      ∀ pair ∈ pairs, pair.2.Stands template marks := by
  induction budget generalizing before with
  | zero =>
      exact .bind (bindingPair_stays stays) fun pair stands => .pure
        (List.forall_mem_append.mpr ⟨stand, List.forall_mem_singleton.mpr stands⟩)
  | succ budget ih =>
      rw [bindingsRest]
      refine .bind (bindingPair_stays stays) fun pair stands => .bind .accept fun further _ => ?_
      have more := List.forall_mem_append.mpr ⟨stand, List.forall_mem_singleton.mpr stands⟩
      split
      · exact ih more
      · exact .pure more

theorem inclusion_stays {keyword : Token} (marked : marks keyword.mark) :
    Stays template marks (inclusion whole keyword) (Throughout (Node.Stands template marks)) := by
  refine .bind .advance fun _ _ => .bind .expect fun name _ => .bind .current fun word _ => ?_
  have included (bindings : Option (List (String × Expr)))
      (stand : ∀ pair ∈ bindings.getD [], pair.2.Stands template marks) :
      Stays template marks (do
          endTag
          return .inclusion name.value bindings (← positionOf keyword))
        (Throughout (Node.Stands template marks)) := by
    refine .bind endTag_stays fun _ _ => .bind (.position marked) fun place placed => ?_
    refine .pure (throughout_stands_iff.mpr ⟨stands_iff.mpr ⟨placed, ?_, ?_⟩, ?_⟩)
    · exact List.forall_mem_nil _
    · exact List.forall_mem_map.mpr stand
    · exact List.forall_mem_nil _
  split
  · refine .bind .advance fun _ _ => .bind .size fun _ _ => ?_
    exact .bind (bindingsRest_stays stays (List.forall_mem_nil _)) fun pairs stand =>
      included (some pairs) stand
  · exact included none (List.forall_mem_nil _)

end

theorem parent_stays {openings : List Opening} {keyword : Token} (marked : marks keyword.mark) :
    Stays template marks (parent openings keyword) (Throughout (Node.Stands template marks)) := by
  rw [parent]
  split
  · refine .bind .advance fun _ _ => .bind .expect fun name _ => .bind endTag_stays fun _ _ => ?_
    refine .bind (.position marked) fun place placed => .pure (throughout_stands_iff.mpr ⟨?_, ?_⟩)
    · exact stands_iff.mpr ⟨placed, List.forall_mem_nil _, List.forall_mem_nil _⟩
    · exact List.forall_mem_nil _
  · exact .refuse marked

variable {nested : BodyParser}
  (bodies : ∀ enclosure (keyword : Token) terminators, marks keyword.mark →
    Stays template marks (nested enclosure keyword terminators) (ReadAt template marks))

include bodies

theorem otherwise_stays (enclosure : Enclosure) {keyword : Token} (marked : marks keyword.mark)
    (terminator : Token) (endWord : String) :
    Stays template marks (otherwise (nested enclosure keyword) terminator endWord) fun body =>
      ∀ nodes ∈ body.toList, BodyStands template marks nodes := by
  rw [otherwise]
  split
  · refine .bind (directive_stays _) fun _ _ => .bind endTag_stays fun _ _ => ?_
    exact .bind (bodies enclosure keyword _ marked) fun read stand =>
      .pure (List.forall_mem_singleton.mpr stand.1)
  · exact .pure (List.forall_mem_nil _)

theorem block_stays {keyword : Token} (marked : marks keyword.mark) :
    Stays template marks (block nested keyword) (Throughout (Node.Stands template marks)) := by
  refine .bind .advance fun _ _ => .bind .expect fun name markedName => ?_
  refine .bind endTag_stays fun _ _ => .bind (openBlock_stays markedName) fun _ _ => ?_
  refine .bind (bodies .block keyword _ marked) fun read stand => ?_
  refine .bind (directive_stays _) fun _ _ => .bind (closingName_stays _) fun _ _ => ?_
  refine .bind endTag_stays fun _ _ => .bind (.position marked) fun place placed => ?_
  refine .pure (throughout_stands_iff.mpr ⟨stands_iff.mpr ⟨placed, ?_, ?_⟩, ?_⟩)
  · exact List.forall_mem_nil _
  · exact List.forall_mem_nil _
  · exact List.forall_mem_singleton.mpr stand.1

include stays

theorem branches_stays (enclosure : Enclosure) {keyword : Token} (marked : marks keyword.mark)
    {budget : Nat} {terminator : Token} {before : List Branch}
    (stand : ∀ branch ∈ before, Placed template marks branch.position ∧
      branch.test.Stands template marks ∧ BodyStands template marks branch.body) :
    Stays template marks (branches whole (nested enclosure keyword) budget terminator before)
      fun read => ∀ branch ∈ read.1, Placed template marks branch.position ∧
        branch.test.Stands template marks ∧ BodyStands template marks branch.body := by
  induction budget generalizing terminator before with
  | zero => exact .pure stand
  | succ budget ih =>
      rw [branches]
      split
      · refine .bind (directive_stays _) fun word markedWord => .bind stays fun test stands => ?_
        refine .bind endTag_stays fun _ _ => ?_
        refine .bind (bodies enclosure keyword _ marked) fun read inner => ?_
        refine .bind (.position markedWord) fun place placed => ih ?_
        exact List.forall_mem_append.mpr
          ⟨stand, List.forall_mem_singleton.mpr ⟨placed, stands, inner.1⟩⟩
      · exact .pure stand

theorem condition_stays {keyword : Token} (marked : marks keyword.mark) :
    Stays template marks (condition whole nested keyword)
      (Throughout (Node.Stands template marks)) := by
  refine .bind .advance fun _ _ => .bind stays fun test stands => .bind endTag_stays fun _ _ => ?_
  refine .bind (bodies .condition keyword _ marked) fun read inner => .bind .size fun _ _ => ?_
  refine .bind (branches_stays stays bodies .condition marked (List.forall_mem_nil _))
    fun further stand => ?_
  refine .bind (otherwise_stays bodies .condition marked _ _) fun rest standRest => ?_
  refine .bind (directive_stays _) fun _ _ => .bind endTag_stays fun _ _ => ?_
  refine .bind (.position marked) fun place placed => .pure (throughout_stands_iff.mpr
    ⟨stands_iff.mpr ⟨placed, ?_, ?_⟩, ?_⟩)
  · exact List.forall_mem_map.mpr fun branch member => (stand branch member).1
  · exact List.forall_mem_cons.mpr
      ⟨stands, List.forall_mem_map.mpr fun branch member => (stand branch member).2.1⟩
  · exact List.forall_mem_cons.mpr ⟨inner.1, List.forall_mem_append.mpr
      ⟨List.forall_mem_map.mpr fun branch member => (stand branch member).2.2, standRest⟩⟩

theorem loop_stays {keyword : Token} (marked : marks keyword.mark) :
    Stays template marks (loop whole nested keyword) (Throughout (Node.Stands template marks)) := by
  refine .bind .advance fun _ _ => .bind loopTargets_stays fun targets _ => ?_
  refine .bind .current fun word markedWord => ?_
  split
  · refine .bind .advance fun _ _ => .bind stays fun iterable stands => ?_
    refine .bind endTag_stays fun _ _ => .bind (bodies .loop keyword _ marked) fun read inner => ?_
    refine .bind (otherwise_stays bodies .loop marked _ _) fun rest standRest => ?_
    refine .bind (directive_stays _) fun _ _ => .bind endTag_stays fun _ _ => ?_
    refine .bind (.position marked) fun place placed => .pure (throughout_stands_iff.mpr
      ⟨stands_iff.mpr ⟨placed, ?_, ?_⟩, ?_⟩)
    · exact List.forall_mem_nil _
    · exact List.forall_mem_singleton.mpr stands
    · exact List.forall_mem_cons.mpr ⟨inner.1, standRest⟩
  · exact .unexpected markedWord

theorem statement_stays (openings : List Opening) :
    Stays template marks (statement whole nested openings)
      (Throughout (Node.Stands template marks)) := by
  refine .bind .advance fun _ _ => .bind .current fun keyword marked => ?_
  split
  · exact .refuse marked
  · split
    · exact .unexpected marked
    · split
      · exact condition_stays stays bodies marked
      · exact loop_stays stays bodies marked
      · exact binding_stays stays marked
      · exact block_stays bodies marked
      · exact parent_stays marked
      · exact inclusion_stays stays marked
      · split <;> exact .refuse marked

end

/-- All directives that are open were opened at the marks. -/
def OpenedAt (marks : Mark → Prop) (openings : List Opening) : Prop :=
  ∀ opening ∈ openings, marks opening.2.mark

theorem finish_stays {openings : List Opening} (opened : OpenedAt marks openings)
    {before : List Node} (stand : BodyStands template marks before) :
    Stays template marks (finish openings before) (ReadAt template marks) := by
  unfold finish
  split
  · exact .bind .current fun token marked => .pure ⟨bodyStands_reverse stand, marked⟩
  · exact .refuse (opened _ List.mem_cons_self)

theorem nodes_stays {whole : Parser Expr} {nested : BodyParser}
    (stays : Stays template marks whole (Expr.Stands template marks))
    (bodies : ∀ enclosure (keyword : Token) terminators, marks keyword.mark →
      Stays template marks (nested enclosure keyword terminators) (ReadAt template marks))
    {openings : List Opening} (opened : OpenedAt marks openings) (terminators : List String)
    {budget : Nat} {before : List Node} (stand : BodyStands template marks before) :
    Stays template marks (nodes whole nested openings terminators budget before)
      (ReadAt template marks) := by
  induction budget generalizing before with
  | zero => exact finish_stays opened stand
  | succ budget ih =>
      have adds {node : Node} (stands : node.Throughout (Node.Stands template marks)) :
          Stays template marks (nodes whole nested openings terminators budget (node :: before))
            (ReadAt template marks) :=
        ih (bodyThroughout_cons.mpr ⟨stands, stand⟩)
      rw [nodes]
      refine .bind .current fun token marked => ?_
      cases token.kind with
      | endOfInput => exact finish_stays opened stand
      | text =>
          exact .bind .advance fun _ _ => .bind (.position marked) fun place placed =>
            ih (appendText_stands placed stand)
      | expressionOpen => exact .bind (output_stays stays) fun node stands => adds stands
      | blockOpen =>
          refine .bind .next fun keyword markedKeyword => ?_
          split
          · exact .pure ⟨bodyStands_reverse stand, markedKeyword⟩
          · exact .bind (statement_stays stays bodies openings) fun node stands => adds stands
      | _ => exact .unexpected marked

theorem bodyAt_stays (limit : Int) (depth : Nat) {openings : List Opening}
    (opened : OpenedAt marks openings) (terminators : List String) :
    Stays template marks (bodyAt limit depth openings terminators) (ReadAt template marks) := by
  have whole : Stays template marks (expression limit) (Expr.Stands template marks) :=
    expression_stays limit
  induction depth generalizing openings terminators with
  | zero =>
      exact .bind .size fun _ _ => nodes_stays whole (fun _ _ _ marked => .refuse marked) opened
        terminators bodyThroughout_nil
  | succ depth ih =>
      refine .bind .size fun _ _ => nodes_stays whole (fun enclosure keyword _ marked => ?_) opened
        terminators bodyThroughout_nil
      exact ih (List.forall_mem_cons.mpr ⟨marked, opened⟩) _

end Grammar

end Templating
