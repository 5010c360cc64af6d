import Templating.Proofs.Grammar.ParsedTemplate
import Templating.Proofs.Nesting.Bodies

/-!
Templates are read from just the tokens whose directives the machine takes and closes. The body in
pieces is then what the tokens say; otherwise the first directive that is out of place is blamed,
or the innermost one that is still open.
-/

namespace Templating

namespace Piece

variable {pieces : List Piece}

/-- What holds of all pieces and of texts put together holds of the joined pieces. -/
theorem forall_joined {holds : Piece → Prop}
    (joins : ∀ first second position other, holds (.text first position) →
      holds (.text second other) → holds (.text (first ++ second) position))
    (all : ∀ piece ∈ pieces, holds piece) : ∀ piece ∈ joined pieces, holds piece := by
  have onto : ∀ before, (∀ piece ∈ before, holds piece) →
      ∀ piece ∈ pieces.foldl joinOnto before, holds piece := by
    induction pieces with
    | nil => exact fun before kept => kept
    | cons next pieces ih =>
        intro before kept
        obtain ⟨first, others⟩ := List.forall_mem_cons.mp all
        apply ih others
        unfold joinOnto
        split
        · obtain ⟨last, rest⟩ := List.forall_mem_cons.mp kept
          exact List.forall_mem_cons.mpr ⟨joins _ _ _ _ last first, rest⟩
        · exact List.forall_mem_cons.mpr ⟨first, kept⟩
  intro piece member
  exact onto [] (List.forall_mem_nil _) piece (List.mem_reverse.mp member)

theorem isBlankText_append (first second : String) :
    Text.isBlankText (first ++ second) = (Text.isBlankText first && Text.isBlankText second) := by
  rw [Text.isBlankText, String.toList_append, List.all_append]
  rfl

theorem joined_blank (blank : ∀ piece ∈ pieces, piece.isBlankText) :
    ∀ piece ∈ joined pieces, piece.isBlankText := by
  apply forall_joined _ blank
  intro first second _ _ blankFirst blankSecond
  rw [isBlankText, isBlankText_append, Bool.and_eq_true]
  exact ⟨blankFirst, blankSecond⟩

/-- Joining makes new texts only. -/
theorem mem_of_joined {piece : Piece} (member : piece ∈ joined pieces)
    (apart : piece.isText = false) : piece ∈ pieces := by
  have all : ∀ piece ∈ joined pieces, piece.isText = false → piece ∈ pieces := by
    apply forall_joined
    · intro _ _ _ _ _ _ text
      cases text
    · exact fun piece member _ => member
  exact all piece member apart

theorem exists_of_isParent {piece : Piece} (parent : piece.isParent) :
    ∃ name position, piece = .directive (.parent name) position := by
  cases piece with
  | directive told position => cases told <;> first | exact ⟨_, _, rfl⟩ | cases parent
  | _ => cases parent

/-- Only blank text stands before the directive that names the parent. -/
def LeadingParent (pieces : List Piece) : Prop :=
  ∀ before parent after, pieces = before ++ parent :: after → parent.isParent →
    ∀ piece ∈ before, piece.isBlankText

end Piece

namespace Nesting

open Grammar Element
open Node (bodyPieces)
open Piece (joined settled LeadingParent)

theorem exists_piece_of_isParent {body : List Node} {node : Node} (member : node ∈ body)
    (parent : node.isParent) : ∃ piece ∈ bodyPieces body, piece.isParent := by
  cases node with
  | parent name position =>
      refine ⟨.directive (.parent name) position, ?_, rfl⟩
      rw [Node.bodyPieces_eq_flatMap, List.mem_flatMap]
      exact ⟨_, member, List.mem_singleton.mpr rfl⟩
  | _ => cases parent

/-- Where no piece names a parent, no node does. -/
theorem noParent_of_pieces {body : List Node} {pieces : List Piece}
    (read : bodyPieces body = joined pieces) (none : ∀ piece ∈ pieces, piece.isParent = false) :
    ∀ node ∈ body, node.isParent = false := by
  intro node member
  rw [← Bool.not_eq_true]
  intro parent
  obtain ⟨piece, inside, isParent⟩ := exists_piece_of_isParent member parent
  rw [read] at inside
  obtain ⟨_, _, rfl⟩ := Piece.exists_of_isParent isParent
  cases none _ (Piece.mem_of_joined inside rfl)

/-- Nodes of blank text that stand before a parent are dropped as their pieces are. -/
theorem dropWhile_blank_of_pieces {body : List Node} {blank rest : List Piece} {name : String}
    {position : Option Position} (all : ∀ piece ∈ blank, piece.isBlankText)
    (read : bodyPieces body = blank ++ .directive (.parent name) position :: rest) :
    ∃ others, body.dropWhile Node.isBlankText = .parent name position :: others ∧
      bodyPieces others = rest := by
  induction blank generalizing body with
  | nil =>
      cases body with
      | nil => cases read
      | cons node body =>
          cases node <;> simp [bodyPieces, Node.pieces] at read
          obtain ⟨⟨rfl, rfl⟩, rfl⟩ := read
          exact ⟨body, rfl, rfl⟩
  | cons piece blank ih =>
      obtain ⟨first, others⟩ := List.forall_mem_cons.mp all
      cases piece with
      | text content place =>
          cases body with
          | nil => cases read
          | cons node body =>
              cases node <;> simp [bodyPieces, Node.pieces] at read
              obtain ⟨⟨rfl, rfl⟩, read⟩ := read
              obtain ⟨others, dropped, same⟩ := ih others read
              refine ⟨others, ?_, same⟩
              rw [List.dropWhile_cons_of_pos (show Node.isBlankText (.text _ _) = true from first),
                dropped]
      | _ => cases first

theorem settled_of_noParent {pieces : List Piece}
    (none : ∀ piece ∈ pieces, piece.isParent = false) :
    settled pieces = pieces := by
  unfold settled
  split
  case h_1 name position rest starts =>
    have member : Piece.directive (.parent name) position ∈ pieces.dropWhile Piece.isBlankText := by
      rw [starts]
      exact List.mem_cons_self
    cases none _ ((List.dropWhile_sublist _).subset member)
  case h_2 => rfl

/-- Where only blank text stands before a parent, settling it leaves out just that text. -/
theorem settleParent_pieces {body : List Node} {pieces : List Piece}
    (read : bodyPieces body = joined pieces) (leading : LeadingParent pieces) :
    ∃ kept, settleParent body = .ok kept ∧ bodyPieces kept = joined (settled pieces) := by
  by_cases some : ∃ piece ∈ pieces, piece.isParent
  · obtain ⟨parent, member, isParent⟩ := some
    obtain ⟨before, after, rfl⟩ := List.append_of_mem member
    have blank := leading before parent after rfl isParent
    obtain ⟨name, position, rfl⟩ := Piece.exists_of_isParent isParent
    have once : ∀ piece ∈ after, piece.isParent = false := by
      intro piece later
      rw [← Bool.not_eq_true]
      intro second
      obtain ⟨between, last, rfl⟩ := List.append_of_mem later
      have never := leading (before ++ .directive (.parent name) position :: between) piece last
        (by rw [List.append_assoc, List.cons_append]) second _
        (List.mem_append_right _ List.mem_cons_self)
      cases never
    have apart : Piece.StartsApart (.directive (.parent name) position :: after) := by
      rintro _ ⟨⟩
      rfl
    rw [Piece.joined_append apart, Piece.joined_cons rfl] at read
    obtain ⟨others, dropped, same⟩ := dropWhile_blank_of_pieces (Piece.joined_blank blank) read
    refine ⟨.parent name position :: others, ?_, ?_⟩
    · rw [settleParent_eq_match, dropped]
      simp only [find?_isParent.mpr (noParent_of_pieces same once)]
    · have kept : settled (before ++ .directive (.parent name) position :: after) =
          .directive (.parent name) position :: after := by
        rw [settled, List.dropWhile_append_of_pos blank]
        rfl
      rw [kept, Piece.joined_cons rfl, ← same]
      rfl
  · have none : ∀ piece ∈ pieces, piece.isParent = false := fun piece member => by
      rw [← Bool.not_eq_true]
      exact fun parent => some ⟨piece, member, parent⟩
    refine ⟨body, settleParent_eq fun node member => ?_, by rw [settled_of_noParent none, read]⟩
    exact noParent_of_pieces read none node (List.mem_of_mem_tail member)

variable {limit : Int} {name source : String} {elements : List (Element limit name)} {last : Token}

theorem ready_ofTokens (distinct : (allBlockNames elements).Nodup)
    (leading : LeadingParent (allPieces elements))
    (shallow : peak [] (keywordTokens elements) ≤ limit.toNat) :
    Ready last [] elements (Cursor.ofTokens name (allTokens elements ++ [last])) where
  rest := rfl
  enough := by simp [Cursor.ofTokens]
  template := rfl
  fresh := distinct
  shallow := shallow
  leading := fun before parent after split isParent =>
    ⟨rfl, leading before parent after split isParent⟩

/-- The parser comes to the machine's verdict. -/
theorem ofTokens_verdict (ends : last.kind = .endOfInput)
    (distinct : (allBlockNames elements).Nodup) (leading : LeadingParent (allPieces elements))
    (shallow : peak [] (keywordTokens elements) ≤ limit.toNat) :
    (verdict [] (keywordTokens elements) = .ok () ∧ ∃ body,
      Template.ofTokens limit name source (allTokens elements ++ [last]) =
        .ok { name := name, body := body, source := source } ∧
      bodyPieces body = joined (settled (allPieces elements))) ∨
    ∃ refusal, verdict [] (keywordTokens elements) = .error refusal ∧
      Template.ofTokens limit name source (allTokens elements ++ [last]) =
        .error (refusalFault name source refusal) := by
  have reads : Reads last [] elements (IsBody [] [])
      (bodyAt limit limit.toNat [] [] (Cursor.ofTokens name (allTokens elements ++ [last]))) :=
    bodyAt_reads ends (Nat.zero_add _) (ready_ofTokens distinct leading shallow)
  unfold Template.ofTokens
  generalize bodyAt limit limit.toNat [] [] _ = run at reads
  cases reads with
  | given read cursor after used left split ready same body =>
      obtain ⟨nodes, token⟩ := read
      obtain rfl : after = [] := body.same
      obtain rfl : left = [] := by
        rcases body.ends with ⟨_, none⟩ | ⟨_, _, _, _, _, _, _, listed⟩
        · exact none
        · cases listed
      rw [List.append_nil] at split
      subst split
      obtain ⟨kept, settles, pieces⟩ := settleParent_pieces body.pieces_eq leading
      simp only [settles]
      exact .inl ⟨same, kept, rfl, pieces⟩
  | refused refusal same => exact .inr ⟨refusal, same, rfl⟩

theorem run_of_verdict {stack : List Frame} {keywords : List Token}
    (accepts : verdict stack keywords = .ok ()) : run stack keywords = .ok [] := by
  unfold verdict at accepts
  split at accepts <;> first | assumption | cases accepts

end Nesting

namespace Template

open Grammar Nesting Element

/-- Let each output hold one expression and each directive be complete, let block names be distinct,
let a parent be named once and behind blank text only, and let no more be open at once than the
limit. Then tokens are a template if and only if the machine takes all keywords and has nothing
left open. The template in pieces is what the tokens say. Otherwise the first keyword that the
machine cannot take is blamed, or the innermost directive that is open at the end. -/
theorem ofTokens_accepted {limit : Int} {name source : String}
    {elements : List (Element limit name)} {last : Token} (ends : last.kind = .endOfInput)
    (distinct : (allBlockNames elements).Nodup)
    (leading : Piece.LeadingParent (allPieces elements))
    (shallow : peak [] (keywordTokens elements) ≤ limit.toNat) :
    ((∃ template, ofTokens limit name source (allTokens elements ++ [last]) = .ok template) ↔
      run [] (keywordTokens elements) = .ok []) ∧
    (∀ template, ofTokens limit name source (allTokens elements ++ [last]) = .ok template →
      template.name = name ∧ template.source = source ∧
        Node.bodyPieces template.body = Piece.joined (Piece.settled (allPieces elements))) ∧
    (∀ keyword, run [] (keywordTokens elements) = .error keyword →
      ofTokens limit name source (allTokens elements ++ [last]) =
        .error (refusalFault name source
          (.unmatched keyword.value (enclosuresOf keyword.value), keyword))) ∧
    (∀ frame outer, run [] (keywordTokens elements) = .ok (frame :: outer) →
      ofTokens limit name source (allTokens elements ++ [last]) =
        .error (refusalFault name source (.unclosed frame.stage.enclosure, frame.keyword))) := by
  rcases ofTokens_verdict ends distinct leading shallow with
    ⟨accepts, body, read, pieces⟩ | ⟨refusal, refuses, read⟩
  · have accepted := run_of_verdict accepts
    refine ⟨⟨fun _ => accepted, fun _ => ⟨_, read⟩⟩, ?_, ?_, ?_⟩
    · intro template same
      rw [read] at same
      cases same
      exact ⟨rfl, rfl, pieces⟩
    · intro keyword untaken
      rw [accepted] at untaken
      cases untaken
    · intro frame outer left
      rw [accepted] at left
      cases left
  · refine ⟨⟨?_, ?_⟩, ?_, ?_, ?_⟩
    · rintro ⟨template, same⟩
      rw [read] at same
      cases same
    · intro accepted
      rw [verdict, accepted] at refuses
      cases refuses
    · intro template same
      rw [read] at same
      cases same
    · intro keyword untaken
      rw [verdict, untaken] at refuses
      cases refuses
      exact read
    · intro frame outer left
      rw [verdict, left] at refuses
      cases refuses
      exact read

section

/-- A token of the page at the start of a line. -/
def onLine (line : Nat) (kind : TokenKind) (value : String) : Token :=
  ⟨kind, value, ⟨line, 1, 0⟩⟩

def lineStart (line : Nat) : Option Position :=
  some ⟨"page", ⟨line, 1, 0⟩⟩

def directiveOn (line : Nat) (word : String) (inside : List Token) : Item :=
  .directive (onLine line .blockOpen "\x7b%") (onLine line .keyword word) inside
    (onLine line .blockClose "%\x7d")

/-- A page that extends another. Its block chooses between an output and a text in two runs. -/
def samplePage : List (Element 2 "page") :=
  [⟨.text (onLine 1 .text "\n"), .text "\n" (lineStart 1), by rfl⟩,
    ⟨directiveOn 2 "extends" [onLine 2 .string "base"], .directive (.parent "base") (lineStart 2),
      by rfl⟩,
    ⟨directiveOn 3 "block" [onLine 3 .identifier "main"], .directive (.block "main") (lineStart 3),
      by rfl⟩,
    ⟨directiveOn 4 "if" [onLine 4 .identifier "x"],
      .directive (.condition (.reference "x" [] (lineStart 4))) (lineStart 4), by rfl⟩,
    ⟨.output (onLine 5 .expressionOpen "\x7b\x7b") [onLine 5 .identifier "x"]
      (onLine 5 .expressionClose "\x7d\x7d"),
      .output (.reference "x" [] (lineStart 5)) (lineStart 5), by rfl⟩,
    ⟨directiveOn 6 "else" [], .directive .otherwise none, by rfl⟩,
    ⟨.text (onLine 7 .text "no"), .text "no" (lineStart 7), by rfl⟩,
    ⟨.text (onLine 8 .text "ne"), .text "ne" (lineStart 8), by rfl⟩,
    ⟨directiveOn 9 "endif" [], .directive .endCondition none, by rfl⟩,
    ⟨directiveOn 10 "endblock" [], .directive .endBlock none, by rfl⟩]

theorem ofTokens_accepted_page :
    ∃ template, ofTokens 2 "page" "" (allTokens samplePage ++ [onLine 11 .endOfInput ""]) =
        .ok template ∧
      Node.bodyPieces template.body =
        [.directive (.parent "base") (lineStart 2), .directive (.block "main") (lineStart 3),
          .directive (.condition (.reference "x" [] (lineStart 4))) (lineStart 4),
          .output (.reference "x" [] (lineStart 5)) (lineStart 5), .directive .otherwise none,
          .text "none" (lineStart 7), .directive .endCondition none,
          .directive .endBlock none] := by
  have once : ∀ piece ∈ (allPieces samplePage).drop 2, piece.isParent = false := by decide
  have leading : Piece.LeadingParent (allPieces samplePage) := by
    intro before parent after split isParent
    match before with
    | [] => exact List.forall_mem_nil _
    | [blank] =>
        obtain ⟨rfl, _⟩ := List.cons.inj split
        exact List.forall_mem_singleton.mpr (by decide)
    | _ :: _ :: before =>
        have later : parent ∈ (allPieces samplePage).drop 2 := by
          rw [split]
          exact List.mem_append_right before List.mem_cons_self
        rw [once parent later] at isParent
        cases isParent
  obtain ⟨accepted, all, _, _⟩ := @ofTokens_accepted 2 "page" "" samplePage
    (onLine 11 .endOfInput "") rfl (by decide) leading (by decide)
  obtain ⟨template, read⟩ := accepted.mpr (by rfl)
  exact ⟨template, read, (all template read).2.2⟩

end

end Template

end Templating
