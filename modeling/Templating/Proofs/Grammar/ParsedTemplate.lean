import Templating.Proofs.Grammar.ParsedBody

/-!
What templates are compiled from a source text: their blocks have distinct names, and they name
their parent first if they name one. All of them are faithful.
-/

namespace Templating

namespace Node

@[simp] theorem isParent_unplaced (node : Node) : node.unplaced.isParent = node.isParent := by
  cases node <;> rfl

/-- If a parent is named at all, it is named first. -/
def ParentFirst (body : List Node) : Prop :=
  ∀ node ∈ body.tail, node.isParent = false

theorem ParentFirst.of_unplaced {body other : List Node} (first : ParentFirst body)
    (same : unplacedBody other = unplacedBody body) : ParentFirst other := by
  rw [unplacedBody_eq_map, unplacedBody_eq_map] at same
  intro node member
  have inside : node.unplaced ∈ (body.map unplaced).tail := by
    rw [← same, ← List.map_tail]
    exact List.mem_map_of_mem member
  rw [← List.map_tail] at inside
  obtain ⟨original, originalMember, sameNode⟩ := List.mem_map.mp inside
  rw [← isParent_unplaced node, ← sameNode, isParent_unplaced]
  exact first original originalMember

end Node

namespace Grammar

open Node

theorem settleParent_eq_match (body : List Node) :
    settleParent body = match body.dropWhile isBlankText with
      | .parent name position :: rest => match rest.find? isParent with
        | some misplaced => .error misplaced.position
        | none => .ok (.parent name position :: rest)
      | _ => match body.find? isParent with
        | some misplaced => .error misplaced.position
        | none => .ok body := by
  unfold settleParent
  cases body.dropWhile isBlankText with
  | nil => rfl
  | cons node rest => cases node <;> rfl

theorem find?_isParent {body : List Node} :
    body.find? isParent = none ↔ ∀ node ∈ body, node.isParent = false := by
  simp [List.find?_eq_none]

/-- Nothing stands before a parent, so nothing is dropped. -/
theorem settleParent_eq {body : List Node} (first : ParentFirst body) :
    settleParent body = .ok body := by
  rw [settleParent_eq_match]
  cases body with
  | nil => rfl
  | cons node rest =>
      cases parent : node.isParent with
      | true =>
          have others : rest.find? isParent = none := find?_isParent.mpr first
          cases node <;> cases parent
          simp [isBlankText, others]
      | false =>
          have none : ∀ other ∈ node :: rest, other.isParent = false :=
            List.forall_mem_cons.mpr ⟨parent, first⟩
          split
          case h_1 name position others starts =>
            have member : Node.parent name position ∈ (node :: rest).dropWhile isBlankText := by
              rw [starts]
              exact List.mem_cons_self
            exact absurd (none _ ((List.dropWhile_sublist _).subset member)) (by simp [isParent])
          case h_2 => rw [find?_isParent.mpr none]

section

variable {holds : Node → Prop} {inside : Bool} {body settled : List Node}

theorem dropWhile_blank (all : BodyOf holds inside body) :
    BodyOf holds inside (body.dropWhile isBlankText) ∧
      bodyBlockNames (body.dropWhile isBlankText) = bodyBlockNames body := by
  induction body with
  | nil => exact ⟨all, rfl⟩
  | cons node rest ih =>
      rw [List.dropWhile_cons]
      split
      case isTrue blank =>
        obtain ⟨kept, names⟩ := ih all.tail
        refine ⟨kept, names.trans ?_⟩
        cases node with
        | text => rfl
        | _ => cases blank
      case isFalse => exact ⟨all, rfl⟩

/-- Settling the parent keeps what holds of the nodes, and the blocks in order. -/
theorem settleParent_keeps (all : BodyOf holds false body)
    (settles : settleParent body = .ok settled) :
    BodyOf holds false settled ∧ bodyBlockNames settled = bodyBlockNames body ∧
      ParentFirst settled := by
  rw [settleParent_eq_match] at settles
  split at settles
  case h_1 name position rest starts =>
    obtain ⟨kept, names⟩ := dropWhile_blank all
    rw [starts] at kept names
    split at settles <;> cases settles
    case h_2.refl absent => exact ⟨kept, names, find?_isParent.mp absent⟩
  case h_2 =>
    split at settles <;> cases settles
    case h_2.refl absent =>
      exact ⟨all, rfl, fun node member =>
        find?_isParent.mp absent node (List.mem_of_mem_tail member)⟩

end

end Grammar

namespace Template

open Node Grammar Lexer

/-- What the grammar makes of sound tokens when so many nodes may stand around a body. -/
structure IsParsed (limit : Nat) (template : Template) : Prop where
  body : BodyParsed limit limit false template.body
  distinct : (bodyBlockNames template.body).Nodup
  parentFirst : ParentFirst template.body

/-- What a compiled template always is. -/
structure IsRead (template : Template) : Prop where
  faithful : BodyFaithful false template.body
  distinct : (bodyBlockNames template.body).Nodup
  parentFirst : ParentFirst template.body

theorem cursor_sound {name : String} {tokens : List Token} (sound : ∀ token ∈ tokens, token.Sound) :
    (Cursor.ofTokens name tokens).Sound := by
  refine ⟨sound, ?_, List.nodup_nil⟩
  simp only [Cursor.ofTokens]
  cases last : tokens.getLast? with
  | none => exact trivial
  | some token => exact sound token (List.mem_of_getLast? last)

theorem isParsed_of_compile {delimiters : Delimiters} {limit : Int} {name source : String}
    {template : Template} (compiled : compile delimiters limit name source = .ok template) :
    template.IsParsed limit.toNat := by
  obtain ⟨tokens, tokenized, read⟩ := Outcome.bind_eq_ok.mp compiled
  unfold ofTokens at read
  split at read
  · cases read
  case h_2 body last after parsed =>
    split at read <;> cases read
    case h_2.refl settled settles =>
      obtain ⟨sound, names, opened, holds, blocks⟩ :=
        bodyAt_ensures limit limit.toNat [] [] (cursor_sound (tokens_sound (tokens_of_tokenize tokenized)))
          parsed
      have distinct : (bodyBlockNames body).Nodup := by
        have all := sound.distinct
        rw [opened] at all
        rw [← show names = bodyBlockNames body from blocks]
        simpa [Cursor.opened, Cursor.ofTokens] using all
      obtain ⟨kept, same, first⟩ := settleParent_keeps (bodyParsed_iff.mp holds) settles
      exact ⟨bodyParsed_iff.mpr kept, same ▸ distinct, first⟩

/-- Whatever the delimiters, a template that is compiled from a source text is faithful. -/
theorem isRead_of_compile {delimiters : Delimiters} {limit : Int} {name source : String}
    {template : Template} (compiled : compile delimiters limit name source = .ok template) :
    template.IsRead :=
  have parsed := isParsed_of_compile compiled
  ⟨parsed.body.faithful, parsed.distinct, parsed.parentFirst⟩

end Template

end Templating
