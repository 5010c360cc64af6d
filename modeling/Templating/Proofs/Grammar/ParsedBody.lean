import Templating.Proofs.Grammar.BodyReadBack
import Templating.Proofs.Grammar.ParsedExpression
import Templating.Proofs.Inside

/-!
What bodies are read from sound tokens, and with how many nodes around one another: texts are joined,
no parent is named inside, and the blocks opened on the way are those of the body, in order. All
bodies are well-formed, as far as canonical source can spell their expressions.
-/

namespace Templating

namespace Node

theorem bodyBlockNames_eq_flatMap (body : List Node) : bodyBlockNames body = body.flatMap blockNames := by
  induction body with
  | nil => rfl
  | cons node body ih => rw [bodyBlockNames, ih, List.flatMap_cons]

theorem branchesBlockNames_eq_flatMap (branches : List Branch) :
    branchesBlockNames branches = branches.flatMap branchBlockNames := by
  induction branches with
  | nil => rfl
  | cons branch branches ih => rw [branchesBlockNames, ih, List.flatMap_cons]

/-- What a node read from sound tokens is, apart from the expressions and the bodies in it. -/
def Sound : Node → Prop
  | text content _ => content ≠ ""
  | loop targets _ _ _ _ => TargetsWellFormed targets
  | binding name _ _ | block name _ _ => IsIdentifier name
  | inclusion _ bindings _ => ∀ pairs ∈ bindings, pairs ≠ [] ∧ ∀ pair ∈ pairs, IsIdentifier pair.1
  | output _ _ | condition _ _ _ _ _ | parent _ _ => True

/-- A sound node whose expressions and bodies satisfy a condition each. -/
structure Fits (exprs : Expr → Prop) (inner : List Node → Prop) (node : Node) : Prop where
  sound : node.Sound
  exprs : ∀ expr ∈ node.exprs, exprs expr
  bodies : ∀ body ∈ node.bodies, inner body

theorem Fits.mono {exprs others : Expr → Prop} {inner further : List Node → Prop} {node : Node}
    (fits : node.Fits exprs inner) (atExpr : ∀ expr, exprs expr → others expr)
    (atBody : ∀ body, inner body → further body) : node.Fits others further :=
  ⟨fits.sound, fun expr member => atExpr expr (fits.exprs expr member),
    fun body member => atBody body (fits.bodies body member)⟩

/-- Two texts. -/
def Joins (left right : Node) : Prop :=
  left.isText ∧ right.isText

/-- Nodes that satisfy a condition, no two texts of which stand side by side. Inside another node no
parent is named. -/
structure BodyOf (holds : Node → Prop) (inside : Bool) (body : List Node) : Prop where
  nodes : ∀ node ∈ body, holds node
  noParent : inside → ∀ node ∈ body, node.isParent = false
  apart : body.IsChain fun left right => ¬ Joins left right

namespace BodyOf

variable {holds : Node → Prop} {inside : Bool} {body : List Node}

theorem nil : BodyOf holds inside [] :=
  ⟨List.forall_mem_nil _, fun _ => List.forall_mem_nil _, .nil⟩

theorem mono {others : Node → Prop} (all : BodyOf holds inside body)
    (weaker : ∀ node, holds node → others node) : BodyOf others inside body :=
  ⟨fun node member => weaker node (all.nodes node member), all.noParent, all.apart⟩

theorem reverse (all : BodyOf holds inside body) : BodyOf holds inside body.reverse := by
  refine ⟨fun node member => all.nodes node (List.mem_reverse.mp member),
    fun within node member => all.noParent within node (List.mem_reverse.mp member), ?_⟩
  rw [List.isChain_reverse]
  exact all.apart.imp fun _ _ apart joins => apart joins.symm

theorem cons {node : Node} (all : BodyOf holds inside body) (first : holds node)
    (noText : node.isText = false) (noParent : inside → node.isParent = false) :
    BodyOf holds inside (node :: body) := by
  refine ⟨List.forall_mem_cons.mpr ⟨first, all.nodes⟩,
    fun within => List.forall_mem_cons.mpr ⟨noParent within, all.noParent within⟩, ?_⟩
  rw [List.isChain_cons]
  refine ⟨fun next _ joins => ?_, all.apart⟩
  exact Bool.false_ne_true (noText.symm.trans joins.1)

theorem tail {node : Node} (all : BodyOf holds inside (node :: body)) :
    BodyOf holds inside body :=
  ⟨(List.forall_mem_cons.mp all.nodes).2,
    fun within => (List.forall_mem_cons.mp (all.noParent within)).2,
    (List.isChain_cons.mp all.apart).2⟩

end BodyOf

/-- What the grammar makes of sound tokens when so many nodes may still stand around a body. -/
def BodyParsed (limit : Nat) : Nat → Bool → List Node → Prop
  | 0 => BodyOf (Fits (Expr.ParsedBelow limit) fun _ => False)
  | depth + 1 => BodyOf (Fits (Expr.ParsedBelow limit) (BodyParsed limit depth true))

theorem bodyParsed_iff {limit depth : Nat} {inside : Bool} {body : List Node} :
    BodyParsed limit depth inside body ↔ BodyOf (Fits (Expr.ParsedBelow limit) fun inner =>
      0 < depth ∧ BodyParsed limit (depth - 1) true inner) inside body := by
  cases depth <;> simp [BodyParsed]

/-- No safe string stands in it, and it is well-formed if its expressions can be spelled. -/
structure Faithful (node : Node) : Prop where
  plain : node.PlainLiterals
  wellFormed : node.Spellable → node.WellFormed

abbrev BodyFaithful : Bool → List Node → Prop :=
  BodyOf Faithful

theorem BodyFaithful.plain {inside : Bool} {body : List Node}
    (faithful : BodyFaithful inside body) : BodyEvery (fun _ => True) Expr.PlainLiterals body :=
  bodyEvery_iff.mpr fun node member => (faithful.nodes node member).plain

theorem BodyFaithful.wellFormed {inside : Bool} {body : List Node}
    (faithful : BodyFaithful inside body) (spellable : BodySpellable body) :
    BodyWellFormed inside body := by
  induction body with
  | nil => exact trivial
  | cons node rest ih =>
      have apart := (List.isChain_cons.mp faithful.apart).1
      refine ⟨(faithful.nodes node List.mem_cons_self).wellFormed spellable.1,
        fun within => faithful.noParent within node List.mem_cons_self,
        fun text next following => ?_, ih faithful.tail spellable.2⟩
      rw [← Bool.not_eq_true]
      exact fun other => apart next following ⟨text, other⟩

theorem branchesPlain_of_faithful {branches : List Branch}
    (tests : ∀ branch ∈ branches, branch.test.Faithful)
    (bodies : ∀ branch ∈ branches, BodyFaithful true branch.body) :
    BranchesEvery (fun _ => True) Expr.PlainLiterals branches := by
  rw [branchesEvery_iff]
  rintro ⟨test, body, position⟩ member
  exact ⟨(tests _ member).plain, BodyFaithful.plain (bodies _ member)⟩

theorem branchesWellFormed_of_faithful {branches : List Branch}
    (tests : ∀ branch ∈ branches, branch.test.Faithful)
    (bodies : ∀ branch ∈ branches, BodyFaithful true branch.body)
    (spellable : BranchesSpellable branches) : BranchesWellFormed branches := by
  induction branches with
  | nil => exact trivial
  | cons branch branches ih =>
      obtain ⟨test, body, position⟩ := branch
      rw [List.forall_mem_cons] at tests bodies
      exact ⟨⟨tests.1.wellFormed spellable.1.1, BodyFaithful.wellFormed bodies.1 spellable.1.2⟩,
        ih tests.2 bodies.2 spellable.2⟩

theorem optionPlain_of_faithful {otherwise : Option (List Node)}
    (faithful : ∀ body ∈ otherwise.toList, BodyFaithful true body) :
    OptionEvery (fun _ => True) Expr.PlainLiterals otherwise := by
  cases otherwise with
  | none => exact trivial
  | some body => exact BodyFaithful.plain (faithful body List.mem_cons_self)

theorem optionWellFormed_of_faithful {otherwise : Option (List Node)}
    (faithful : ∀ body ∈ otherwise.toList, BodyFaithful true body)
    (spellable : OptionSpellable otherwise) : OptionWellFormed otherwise := by
  cases otherwise with
  | none => exact trivial
  | some body => exact BodyFaithful.wellFormed (faithful body List.mem_cons_self) spellable

/-- A sound node is faithful if everything in it is. -/
theorem Fits.faithful {node : Node} (fits : node.Fits Expr.Faithful (BodyFaithful true)) :
    node.Faithful := by
  obtain ⟨sound, exprs, inner⟩ := fits
  cases node with
  | text => exact ⟨trivial, fun _ => sound⟩
  | output expr =>
      have faithful := exprs expr List.mem_cons_self
      exact ⟨faithful.plain, faithful.wellFormed⟩
  | condition test body branches otherwise =>
      simp only [Node.exprs, Node.bodies, List.forall_mem_cons, List.forall_mem_append,
        List.forall_mem_map] at exprs inner
      obtain ⟨faithfulTest, tests⟩ := exprs
      obtain ⟨faithful, further, rest⟩ := inner
      refine ⟨⟨faithfulTest.plain, faithful.plain, branchesPlain_of_faithful tests further,
        optionPlain_of_faithful rest⟩, ?_⟩
      intro spellable
      exact ⟨faithfulTest.wellFormed spellable.1, faithful.wellFormed spellable.2.1,
        branchesWellFormed_of_faithful tests further spellable.2.2.1,
        optionWellFormed_of_faithful rest spellable.2.2.2⟩
  | loop targets iterable body otherwise =>
      simp only [Node.exprs, Node.bodies, List.forall_mem_cons] at exprs inner
      refine ⟨⟨exprs.1.plain, inner.1.plain, optionPlain_of_faithful inner.2⟩, ?_⟩
      intro spellable
      exact ⟨sound, exprs.1.wellFormed spellable.1, inner.1.wellFormed spellable.2.1,
        optionWellFormed_of_faithful inner.2 spellable.2.2⟩
  | binding name value =>
      have faithful := exprs value List.mem_cons_self
      exact ⟨faithful.plain, fun spellable => ⟨sound, faithful.wellFormed spellable⟩⟩
  | block name body =>
      have faithful := inner body List.mem_cons_self
      exact ⟨faithful.plain, fun spellable => ⟨sound, faithful.wellFormed spellable⟩⟩
  | parent => exact ⟨trivial, fun _ => trivial⟩
  | inclusion name bindings =>
      cases bindings with
      | none => exact ⟨fun _ given => (by cases given), fun _ => trivial⟩
      | some pairs =>
          have values : ∀ pair ∈ pairs, pair.2.Faithful := List.forall_mem_map.mp exprs
          obtain ⟨some, known⟩ := sound pairs rfl
          constructor
          · intro others given pair member
            cases given
            exact (values pair member).plain
          · exact fun spellable => ⟨some, fun pair member =>
              ⟨known pair member, (values pair member).wellFormed (spellable pair member)⟩⟩

/-- Whatever the grammar makes of sound tokens is faithful. -/
theorem BodyParsed.faithful {limit depth : Nat} {inside : Bool} {body : List Node}
    (parsed : BodyParsed limit depth inside body) : BodyFaithful inside body := by
  have atExpr : ∀ expr : Expr, expr.ParsedBelow limit → expr.Faithful :=
    fun _ below => below.2.faithful
  induction depth generalizing inside body with
  | zero => exact BodyOf.mono parsed fun _ fits => (fits.mono atExpr fun _ no => no.elim).faithful
  | succ depth ih => exact BodyOf.mono parsed fun _ fits => (fits.mono atExpr fun _ => ih).faithful

end Node

namespace Grammar

open Templating.Parser Node

variable {β : Type} {post : β → List String → Prop}

namespace Ensures

theorem endTag {onwards : Unit → Parser β} (continues : Ensures (onwards ()) post) :
    Ensures (Grammar.endTag >>= onwards) post := by
  rw [Grammar.endTag, bind_assoc]
  exact Ensures.expect fun _ _ _ => continues

theorem directive {word : String} {onwards : Token → Parser β}
    (continues : ∀ token : Token, Ensures (onwards token) post) :
    Ensures (Grammar.directive word >>= onwards) post := by
  rw [Grammar.directive, bind_assoc]
  apply Ensures.expect
  intro _ _ _
  rw [bind_assoc]
  apply Ensures.current
  intro token _
  split
  · exact Ensures.advance fun token _ => continues token
  · exact Ensures.unexpectedBind

/-- A directive of one word. -/
theorem directiveEnd {word : String} {onwards : Unit → Parser β}
    (continues : Ensures (onwards ()) post) :
    Ensures (do
      let _ ← Grammar.directive word
      Grammar.endTag >>= onwards) post :=
  Ensures.directive fun _ => Ensures.endTag continues

end Ensures

theorem loopTargets_yields : Yields loopTargets TargetsWellFormed := by
  rw [loopTargets]
  apply Ensures.expect
  intro first soundFirst identifier
  rw [Token.Sound, identifier] at soundFirst
  have one : TargetsWellFormed [first.value] :=
    ⟨List.forall_mem_singleton.mpr soundFirst, List.nodup_singleton _, .inl rfl⟩
  apply Ensures.accept
  · apply Ensures.expect
    intro second soundSecond identifier
    rw [Token.Sound, identifier] at soundSecond
    split
    · exact Ensures.unexpected
    case isFalse different =>
      refine Ensures.pure ⟨rfl, List.forall_mem_cons.mpr
        ⟨soundFirst, List.forall_mem_singleton.mpr soundSecond⟩, ?_, .inr rfl⟩
      rw [List.nodup_cons, List.mem_singleton]
      exact ⟨fun same => different same.symm, List.nodup_singleton _⟩
  · exact Ensures.pure ⟨rfl, one⟩

theorem openBlock_ensures (name : Token) :
    Ensures (openBlock name) fun _ names => names = [name.value] := by
  intro cursor value after sound run
  have fresh : cursor.blocks.lookup name.value = none := by
    cases found : cursor.blocks.lookup name.value with
    | none => rfl
    | some first =>
        rw [openBlock_taken found] at run
        cases run
  rw [openBlock_fresh fresh] at run
  cases run
  refine ⟨⟨sound.rest, sound.last, ?_⟩, [name.value], rfl, rfl⟩
  refine List.nodup_cons.mpr ⟨?_, sound.distinct⟩
  intro member
  obtain ⟨block, inside, same⟩ := List.mem_map.mp member
  have different := List.lookup_eq_none_iff.mp fresh block inside
  simp [same] at different

theorem closingName_yields (name : String) : Yields (closingName name) fun _ => True := by
  rw [closingName]
  apply Ensures.current
  intro closing _
  split
  · split
    · exact Ensures.advance fun _ _ => Ensures.pure ⟨rfl, trivial⟩
    · exact Ensures.refuse
  · exact Ensures.pure ⟨rfl, trivial⟩

/-- The node fits, is no text, and no parent unless one may be named here; the names are those of its
blocks. -/
def IsRead (exprs : Expr → Prop) (inner : List Node → Prop) (inside : Bool) (node : Node)
    (names : List String) : Prop :=
  node.Fits exprs inner ∧ node.isText = false ∧ (inside → node.isParent = false) ∧
    names = node.blockNames

/-- The body satisfies the condition, and the names are those of its blocks. -/
def IsReadBody (inner : List Node → Prop) (read : List Node × Token) (names : List String) : Prop :=
  inner read.1 ∧ names = bodyBlockNames read.1

section

variable {exprs : Expr → Prop} {inner : List Node → Prop}

theorem isRead_pure {inside : Bool} {node : Node} {names : List String}
    (fits : node.Fits exprs inner) (noText : node.isText = false)
    (noParent : node.isParent = false) (blocks : names = node.blockNames) :
    IsRead exprs inner inside node names :=
  ⟨fits, noText, fun _ => noParent, blocks⟩

variable {whole : Parser Expr} (yields : Yields whole exprs)

section

include yields

theorem bindingPair_yields :
    Yields (bindingPair whole) fun pair => IsIdentifier pair.1 ∧ exprs pair.2 := by
  rw [bindingPair]
  apply Ensures.expect
  intro name sound identifier
  rw [Token.Sound, identifier] at sound
  apply Ensures.expect
  intro _ _ _
  apply Ensures.yields yields
  intro value holds
  exact Ensures.pure ⟨rfl, sound, holds⟩

theorem bindingsRest_yields {budget : Nat} {before : List (String × Expr)}
    (all : ∀ pair ∈ before, IsIdentifier pair.1 ∧ exprs pair.2) :
    Yields (bindingsRest whole budget before) fun bindings =>
      bindings ≠ [] ∧ ∀ pair ∈ bindings, IsIdentifier pair.1 ∧ exprs pair.2 := by
  have more : ∀ last : String × Expr, IsIdentifier last.1 ∧ exprs last.2 →
      ∀ pair ∈ before ++ [last], IsIdentifier pair.1 ∧ exprs pair.2 := fun last holds =>
    List.forall_mem_append.mpr ⟨all, List.forall_mem_singleton.mpr holds⟩
  induction budget generalizing before with
  | zero =>
      apply Ensures.yields (bindingPair_yields yields)
      intro pair last
      exact Ensures.pure ⟨rfl, by simp, more pair last⟩
  | succ budget ih =>
      rw [bindingsRest]
      apply Ensures.yields (bindingPair_yields yields)
      intro pair last
      apply Ensures.accept
      · exact ih (more pair last) fun next other => List.forall_mem_append.mpr
          ⟨more pair last, List.forall_mem_singleton.mpr other⟩
      · exact Ensures.pure ⟨rfl, by simp, more pair last⟩

theorem output_ensures (inside : Bool) : Ensures (output whole) (IsRead exprs inner inside) := by
  rw [output]
  apply Ensures.advance
  intro opener _
  apply Ensures.yields yields
  intro expr holds
  apply Ensures.expect
  intro _ _ _
  exact Ensures.position fun position => Ensures.pure (isRead_pure
    ⟨trivial, List.forall_mem_singleton.mpr holds, List.forall_mem_nil _⟩ rfl rfl rfl)

theorem binding_ensures (inside : Bool) (keyword : Token) :
    Ensures (binding whole keyword) (IsRead exprs inner inside) := by
  rw [binding]
  apply Ensures.advance
  intro _ _
  apply Ensures.expect
  intro name sound identifier
  rw [Token.Sound, identifier] at sound
  apply Ensures.expect
  intro _ _ _
  apply Ensures.yields yields
  intro value holds
  apply Ensures.endTag
  exact Ensures.position fun position => Ensures.pure (isRead_pure
    ⟨sound, List.forall_mem_singleton.mpr holds, List.forall_mem_nil _⟩ rfl rfl rfl)

theorem inclusion_ensures (inside : Bool) (keyword : Token) :
    Ensures (inclusion whole keyword) (IsRead exprs inner inside) := by
  rw [inclusion]
  apply Ensures.advance
  intro _ _
  apply Ensures.expect
  intro name _ _
  apply Ensures.current
  intro word _
  have continues : ∀ bindings : Option (List (String × Expr)), (∀ pairs ∈ bindings,
      pairs ≠ [] ∧ ∀ pair ∈ pairs, IsIdentifier pair.1 ∧ exprs pair.2) →
      Ensures (do
        endTag
        return .inclusion name.value bindings (← positionOf keyword))
        (IsRead exprs inner inside) := by
    intro bindings all
    apply Ensures.endTag
    apply Ensures.position
    intro position
    refine Ensures.pure (isRead_pure ⟨?_, ?_, List.forall_mem_nil _⟩ rfl rfl rfl)
    · exact fun pairs given =>
        ⟨(all pairs given).1, fun pair member => ((all pairs given).2 pair member).1⟩
    · cases bindings with
      | none => exact List.forall_mem_nil _
      | some pairs => exact List.forall_mem_map.mpr fun pair member =>
          ((all pairs rfl).2 pair member).2
  split
  · apply Ensures.advance
    intro _ _
    apply Ensures.size
    intro turns
    apply Ensures.yields (bindingsRest_yields yields (List.forall_mem_nil _))
    intro bindings all
    exact continues (some bindings) fun pairs member => by
      cases member
      exact all
  · exact continues none (by
      intro pairs member
      cases member)

end

theorem parent_ensures (openings : List Opening) (keyword : Token) :
    Ensures (parent openings keyword) (IsRead exprs inner (!openings.isEmpty)) := by
  rw [parent]
  split
  case isTrue outermost =>
    apply Ensures.advance
    intro _ _
    apply Ensures.expect
    intro name _ _
    apply Ensures.endTag
    apply Ensures.position
    intro position
    exact Ensures.pure ⟨⟨trivial, List.forall_mem_nil _, List.forall_mem_nil _⟩, rfl,
      by simp [outermost], rfl⟩
  case isFalse => exact Ensures.refuse

variable {nested : BodyParser}
  (bodies : ∀ enclosure keyword terminators,
    Ensures (nested enclosure keyword terminators) (IsReadBody inner))

include bodies

theorem otherwise_ensures (enclosure : Enclosure) (keyword terminator : Token) (word : String) :
    Ensures (otherwise (nested enclosure keyword) terminator word) fun body names =>
      (∀ nodes ∈ body.toList, inner nodes) ∧ names = optionBlockNames body := by
  rw [otherwise]
  split
  · apply Ensures.directiveEnd
    apply Ensures.bind (bodies enclosure keyword [word])
    rintro ⟨nodes, _⟩ names ⟨holds, rfl⟩
    apply Ensures.pure
    rw [List.append_nil]
    exact ⟨List.forall_mem_singleton.mpr holds, rfl⟩
  · exact Ensures.pure ⟨List.forall_mem_nil _, rfl⟩

theorem block_ensures (inside : Bool) (keyword : Token) :
    Ensures (block nested keyword) (IsRead exprs inner inside) := by
  rw [block]
  apply Ensures.advance
  intro _ _
  apply Ensures.expect
  intro name sound identifier
  rw [Token.Sound, identifier] at sound
  apply Ensures.endTag
  apply Ensures.bind (openBlock_ensures name)
  rintro _ _ rfl
  apply Ensures.bind (bodies .block keyword ["endblock"])
  rintro ⟨nodes, _⟩ names ⟨holds, rfl⟩
  apply Ensures.directive
  intro _
  apply Ensures.yields (closingName_yields name.value)
  intro _ _
  apply Ensures.endTag
  apply Ensures.position
  intro position
  refine Ensures.pure (isRead_pure
    ⟨sound, List.forall_mem_nil _, List.forall_mem_singleton.mpr holds⟩ rfl rfl ?_)
  rw [List.append_nil]
  rfl

include yields

theorem branches_ensures (enclosure : Enclosure) (keyword : Token) {budget : Nat}
    {terminator : Token} {before : List Branch}
    (fit : ∀ branch ∈ before, exprs branch.test ∧ inner branch.body) :
    Ensures (branches whole (nested enclosure keyword) budget terminator before) fun read names =>
      (∀ branch ∈ read.1, exprs branch.test ∧ inner branch.body) ∧
        branchesBlockNames read.1 = branchesBlockNames before ++ names := by
  induction budget generalizing terminator before with
  | zero => exact Ensures.pure ⟨fit, (List.append_nil _).symm⟩
  | succ budget ih =>
      rw [branches]
      split
      · apply Ensures.directive
        intro word
        apply Ensures.yields yields
        intro test holds
        apply Ensures.endTag
        apply Ensures.bind (bodies enclosure keyword ["elif", "else", "endif"])
        rintro ⟨nodes, terminator⟩ names ⟨holdsBody, rfl⟩
        apply Ensures.position
        intro position
        have more : ∀ branch ∈ before ++ [.mk test nodes position],
            exprs branch.test ∧ inner branch.body :=
          List.forall_mem_append.mpr ⟨fit, List.forall_mem_singleton.mpr ⟨holds, holdsBody⟩⟩
        apply (ih more).mono
        rintro read names ⟨all, same⟩
        refine ⟨all, ?_⟩
        rw [same, branchesBlockNames_eq_flatMap, List.flatMap_append, List.flatMap_singleton,
          ← branchesBlockNames_eq_flatMap, List.append_assoc]
        rfl
      · exact Ensures.pure ⟨fit, (List.append_nil _).symm⟩

theorem condition_ensures (inside : Bool) (keyword : Token) :
    Ensures (condition whole nested keyword) (IsRead exprs inner inside) := by
  rw [condition]
  apply Ensures.advance
  intro _ _
  apply Ensures.yields yields
  intro test holdsTest
  apply Ensures.endTag
  apply Ensures.bind (bodies .condition keyword ["elif", "else", "endif"])
  rintro ⟨nodes, terminator⟩ names ⟨holds, rfl⟩
  apply Ensures.size
  intro turns
  apply Ensures.bind (branches_ensures yields bodies .condition keyword (List.forall_mem_nil _))
  rintro ⟨further, terminator⟩ names ⟨fit, same⟩
  obtain rfl : branchesBlockNames further = names := same
  apply Ensures.bind (otherwise_ensures bodies .condition keyword terminator "endif")
  rintro rest names ⟨holdsRest, rfl⟩
  apply Ensures.directiveEnd
  apply Ensures.position
  intro position
  refine Ensures.pure (isRead_pure ⟨trivial, ?_, ?_⟩ rfl rfl ?_)
  · exact List.forall_mem_cons.mpr ⟨holdsTest,
      List.forall_mem_map.mpr fun branch member => (fit branch member).1⟩
  · exact List.forall_mem_cons.mpr ⟨holds, List.forall_mem_append.mpr
      ⟨List.forall_mem_map.mpr fun branch member => (fit branch member).2, holdsRest⟩⟩
  · rw [List.append_nil, ← List.append_assoc]
    rfl

theorem loop_ensures (inside : Bool) (keyword : Token) :
    Ensures (loop whole nested keyword) (IsRead exprs inner inside) := by
  rw [loop]
  apply Ensures.advance
  intro _ _
  apply Ensures.yields loopTargets_yields
  intro targets known
  apply Ensures.current
  intro word _
  split
  · apply Ensures.advance
    intro _ _
    apply Ensures.yields yields
    intro iterable holdsIterable
    apply Ensures.endTag
    apply Ensures.bind (bodies .loop keyword ["else", "endfor"])
    rintro ⟨nodes, terminator⟩ names ⟨holds, rfl⟩
    apply Ensures.bind (otherwise_ensures bodies .loop keyword terminator "endfor")
    rintro rest names ⟨holdsRest, rfl⟩
    apply Ensures.directiveEnd
    apply Ensures.position
    intro position
    refine Ensures.pure (isRead_pure ⟨known, List.forall_mem_singleton.mpr holdsIterable,
      List.forall_mem_cons.mpr ⟨holds, holdsRest⟩⟩ rfl rfl ?_)
    rw [List.append_nil]
    rfl
  · exact Ensures.unexpected

theorem statement_ensures (openings : List Opening) :
    Ensures (statement whole nested openings) (IsRead exprs inner (!openings.isEmpty)) := by
  rw [statement]
  apply Ensures.advance
  intro _ _
  apply Ensures.current
  intro keyword _
  split
  · exact Ensures.refuse
  · split
    · exact Ensures.unexpected
    · split
      · exact condition_ensures yields bodies _ keyword
      · exact loop_ensures yields bodies _ keyword
      · exact binding_ensures yields _ keyword
      · exact block_ensures bodies _ keyword
      · exact parent_ensures openings keyword
      · exact inclusion_ensures yields _ keyword
      · split <;> exact Ensures.refuse

end

theorem bodyBlockNames_reverse_cons (node : Node) (before : List Node) :
    bodyBlockNames (node :: before).reverse = bodyBlockNames before.reverse ++ node.blockNames := by
  rw [List.reverse_cons, bodyBlockNames_eq_flatMap, List.flatMap_append, List.flatMap_singleton,
    ← bodyBlockNames_eq_flatMap]

section

variable {exprs : Expr → Prop} {inner : List Node → Prop}

/-- Adding a text keeps texts apart and opens no block. -/
theorem appendText_fits {inside : Bool} {before : List Node} {content : String}
    (position : Option Position) (all : BodyOf (Fits exprs inner) inside before)
    (some : content ≠ "") :
    BodyOf (Fits exprs inner) inside (appendText content position before) ∧
      bodyBlockNames (appendText content position before).reverse = bodyBlockNames before.reverse := by
  have fits : ∀ {text : String} (first : Option Position), text ≠ "" →
      (Node.text text first).Fits exprs inner := fun _ some =>
    ⟨some, List.forall_mem_nil _, List.forall_mem_nil _⟩
  unfold appendText
  split
  case h_1 text first rest =>
    obtain ⟨nodes, noParent, apart⟩ := all
    rw [List.isChain_cons] at apart
    have more : text ++ content ≠ "" := fun none => some (String.append_eq_empty_iff.mp none).2
    refine ⟨⟨List.forall_mem_cons.mpr ⟨fits first more, (List.forall_mem_cons.mp nodes).2⟩,
      fun within => List.forall_mem_cons.mpr ⟨rfl, (List.forall_mem_cons.mp (noParent within)).2⟩,
      List.isChain_cons.mpr ⟨apart.1, apart.2⟩⟩, ?_⟩
    rw [bodyBlockNames_reverse_cons, bodyBlockNames_reverse_cons]
    rfl
  case h_2 noText =>
    obtain ⟨nodes, noParent, apart⟩ := all
    refine ⟨⟨List.forall_mem_cons.mpr ⟨fits position some, nodes⟩,
      fun within => List.forall_mem_cons.mpr ⟨rfl, noParent within⟩,
      List.isChain_cons.mpr ⟨?_, apart⟩⟩, ?_⟩
    · intro next member joins
      cases next with
      | text text first =>
          obtain ⟨rest, rfl⟩ := List.head?_eq_some_iff.mp member
          exact noText text first rest rfl
      | _ => exact Bool.false_ne_true joins.2
    · rw [bodyBlockNames_reverse_cons]
      exact List.append_nil _

theorem finish_ensures {openings : List Opening} {before : List Node}
    (all : BodyOf (Fits exprs inner) (!openings.isEmpty) before) :
    Ensures (finish openings before) fun read names =>
      BodyOf (Fits exprs inner) (!openings.isEmpty) read.1 ∧
        bodyBlockNames read.1 = bodyBlockNames before.reverse ++ names := by
  unfold finish
  split
  · exact Ensures.current fun token _ => Ensures.pure ⟨all.reverse, (List.append_nil _).symm⟩
  · exact Ensures.refuse

theorem nodes_ensures {whole : Parser Expr} {nested : BodyParser} (yields : Yields whole exprs)
    (bodies : ∀ enclosure keyword terminators,
      Ensures (nested enclosure keyword terminators) (IsReadBody inner))
    {openings : List Opening} {terminators : List String} {budget : Nat} {before : List Node}
    (all : BodyOf (Fits exprs inner) (!openings.isEmpty) before) :
    Ensures (nodes whole nested openings terminators budget before) fun read names =>
      BodyOf (Fits exprs inner) (!openings.isEmpty) read.1 ∧
        bodyBlockNames read.1 = bodyBlockNames before.reverse ++ names := by
  induction budget generalizing before with
  | zero => exact finish_ensures all
  | succ budget ih =>
      have adds : ∀ {parser : Parser Node},
          Ensures parser (IsRead exprs inner (!openings.isEmpty)) →
          Ensures (do
              let node ← parser
              nodes whole nested openings terminators budget (node :: before))
            fun read names => BodyOf (Fits exprs inner) (!openings.isEmpty) read.1 ∧
              bodyBlockNames read.1 = bodyBlockNames before.reverse ++ names := by
        intro parser ensures
        apply Ensures.bind ensures
        rintro node _ ⟨first, noText, noParent, rfl⟩
        apply (ih (all.cons first noText noParent)).mono
        rintro read names ⟨more, same⟩
        refine ⟨more, ?_⟩
        rw [same, bodyBlockNames_reverse_cons, List.append_assoc]
      rw [nodes]
      apply Ensures.current
      intro token sound
      split
      case h_1 => exact finish_ensures all
      case h_2 kind =>
        rw [Token.Sound, kind] at sound
        apply Ensures.advance
        intro _ _
        apply Ensures.position
        intro position
        obtain ⟨more, same⟩ := appendText_fits position all sound
        rw [← same]
        exact ih more
      case h_3 => exact adds (output_ensures yields _)
      case h_4 =>
        apply Ensures.next
        intro keyword _
        split
        · exact Ensures.pure ⟨all.reverse, (List.append_nil _).symm⟩
        · exact adds (statement_ensures yields bodies openings)
      case h_5 => exact Ensures.unexpected

end

/-- What every body is that is read from a source text. -/
theorem bodyAt_ensures (limit : Int) (depth : Nat) (openings : List Opening)
    (terminators : List String) :
    Ensures (bodyAt limit depth openings terminators)
      (IsReadBody (BodyParsed limit.toNat depth (!openings.isEmpty))) := by
  have reads : ∀ {inner : List Node → Prop} (openings : List Opening) (terminators : List String)
      {nested : BodyParser}, (∀ enclosure keyword terminators,
        Ensures (nested enclosure keyword terminators) (IsReadBody inner)) →
      Ensures (do nodes (expression limit) nested openings terminators (← size) [])
        (IsReadBody (BodyOf (Fits (Expr.ParsedBelow limit.toNat) inner) (!openings.isEmpty))) := by
    intro inner openings terminators nested bodies
    apply Ensures.size
    intro turns
    apply (nodes_ensures (expression_yields limit) bodies BodyOf.nil).mono
    rintro read names ⟨all, same⟩
    exact ⟨all, same.symm⟩
  induction depth generalizing openings terminators with
  | zero => exact reads openings terminators fun _ _ _ => Ensures.refuse
  | succ depth ih =>
      apply reads openings terminators
      intro enclosure keyword terminators
      exact ih ((enclosure, keyword) :: openings) terminators

end Grammar

end Templating
