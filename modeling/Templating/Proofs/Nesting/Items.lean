import Templating.Proofs.Nesting.InsideTags
import Templating.Proofs.Nesting.Pieces

/-!
Tokens item by item: a run of text, or a tag with what it says. What a tag says is read from its
own tokens, and read the same wherever the tag stands.
-/

namespace Templating

namespace Grammar

open Templating.Parser

variable {whole : Parser Expr} {keyword : Token}

def loopHeading (whole : Parser Expr) : Parser (List String × Expr) := do
  let targets ← loopTargets
  let word ← current
  if word.isKeyword "in" then
    let _ ← advance
    return (targets, ← whole)
  else unexpected word (some "'in'")

def bindingHeading (whole : Parser Expr) : Parser (String × Expr) := do
  let name ← expect .identifier "variable name after 'let'"
  let _ ← expect .assign "'=' after variable name"
  return (name.value, ← whole)

def inclusionHeading (whole : Parser Expr) :
    Parser (String × Option (List (String × Expr))) := do
  let name ← expect .string "quoted template name"
  if (← current).isKeyword "with" then
    let _ ← advance
    return (name.value, some (← bindingsRest whole (← size) []))
  else return (name.value, none)

/-- What stands in a directive after its keyword. -/
def heading (whole : Parser Expr) (keyword : Token) : Parser Directive :=
  match keyword.value with
  | "if" => do return .condition (← whole)
  | "elif" => do return .further (← whole)
  | "else" => return .otherwise
  | "endif" => return .endCondition
  | "for" => do
    let (targets, iterable) ← loopHeading whole
    return .loop targets iterable
  | "endfor" => return .endLoop
  | "let" => do
    let (name, value) ← bindingHeading whole
    return .binding name value
  | "block" => do
    let name ← expect .identifier "block name"
    return .block name.value
  | "endblock" => return .endBlock
  | "extends" => do
    let name ← expect .string "quoted parent template name"
    return .parent name.value
  | "include" => do
    let (name, bindings) ← inclusionHeading whole
    return .inclusion name bindings
  | word => refuse (.unknownDirective word) keyword

theorem isInside_of_keyword {token : Token} {word : String} (keyword : token.isKeyword word) :
    token.kind.isInside := by
  simp only [Token.isKeyword, Bool.and_eq_true, beq_iff_eq] at keyword
  rw [keyword.1]
  decide

theorem loopHeading_confined (confined : Confined 0 whole) : Confined 0 (loopHeading whole) := by
  intro bound
  rw [loopHeading]
  apply (loopTargets_confined bound).bind
  intro targets
  apply Follows.current
  intro token
  split
  case isTrue word =>
    apply Follows.advance (isInside_of_keyword word)
    exact fun few _ => (confined few).bind fun _ => Follows.pure _
  case isFalse => exact Follows.unexpected

theorem bindingHeading_confined (confined : Confined 0 whole) :
    Confined 0 (bindingHeading whole) := by
  intro bound
  rw [bindingHeading]
  apply Follows.expect (by decide)
  intro name few _
  apply Follows.expect (by decide)
  exact fun _ few _ => (confined few).bind fun _ => Follows.pure _

theorem inclusionHeading_confined (confined : Confined 0 whole) :
    Confined 0 (inclusionHeading whole) := by
  intro bound
  rw [inclusionHeading]
  apply Follows.expect (by decide)
  intro name few _
  apply Follows.current
  intro token
  split
  case isTrue word =>
    apply Follows.advance (isInside_of_keyword word)
    intro few _
    apply Follows.size
    intro few one other _ enough enoughOther
    exact (bindingsRest_follows confined enough enoughOther []).bind fun _ => Follows.pure _
  case isFalse => exact Follows.pure _

/-- No directive is read beyond its tag. -/
theorem heading_confined (confined : Confined 0 whole) (keyword : Token) :
    Confined 0 (heading whole keyword) := by
  intro bound
  unfold heading
  split
  case h_1 => exact (confined bound).bind fun _ => Follows.pure _
  case h_2 => exact (confined bound).bind fun _ => Follows.pure _
  case h_3 => exact Follows.pure _
  case h_4 => exact Follows.pure _
  case h_5 => exact (loopHeading_confined confined bound).bind fun _ => Follows.pure _
  case h_6 => exact Follows.pure _
  case h_7 => exact (bindingHeading_confined confined bound).bind fun _ => Follows.pure _
  case h_8 => exact Follows.expect (by decide) fun _ _ _ => Follows.pure _
  case h_9 => exact Follows.pure _
  case h_10 => exact Follows.expect (by decide) fun _ _ _ => Follows.pure _
  case h_11 => exact (inclusionHeading_confined confined bound).bind fun _ => Follows.pure _
  case h_12 => exact Follows.refuse

/-- The keyword and the parts of a directive that is read between two places of a cursor. -/
def ReadsHeading (whole : Parser Expr) (keyword : Token) (before after : Cursor) :
    Directive → Prop
  | .condition test => keyword.value = "if" ∧ whole before = .ok (test, after)
  | .further test => keyword.value = "elif" ∧ whole before = .ok (test, after)
  | .otherwise => keyword.value = "else" ∧ after = before
  | .endCondition => keyword.value = "endif" ∧ after = before
  | .loop targets iterable =>
    keyword.value = "for" ∧ loopHeading whole before = .ok ((targets, iterable), after)
  | .endLoop => keyword.value = "endfor" ∧ after = before
  | .binding name value =>
    keyword.value = "let" ∧ bindingHeading whole before = .ok ((name, value), after)
  | .block name => keyword.value = "block" ∧ ∃ token : Token, token.value = name ∧
    expect .identifier "block name" before = .ok (token, after)
  | .endBlock => keyword.value = "endblock" ∧ after = before
  | .parent name => keyword.value = "extends" ∧ ∃ token : Token, token.value = name ∧
    expect .string "quoted parent template name" before = .ok (token, after)
  | .inclusion name bindings =>
    keyword.value = "include" ∧ inclusionHeading whole before = .ok ((name, bindings), after)

theorem readsHeading {before after : Cursor} {directive : Directive}
    (reads : heading whole keyword before = .ok (directive, after)) :
    ReadsHeading whole keyword before after directive := by
  have parts : ∀ {α : Type} {parser : Parser α} {told : α → Directive},
      (do return told (← parser) : Parser Directive) before = .ok (directive, after) →
        ∃ part, directive = told part ∧ parser before = .ok (part, after) := by
    intro α parser told run
    obtain ⟨⟨part, between⟩, runPart, rest⟩ := Outcome.bind_eq_ok.mp run
    cases rest
    exact ⟨part, rfl, runPart⟩
  obtain ⟨parser, same⟩ : ∃ parser, heading whole keyword = parser := ⟨_, rfl⟩
  rw [same] at reads
  unfold heading at same
  split at same <;> subst same
  case h_1 value =>
    obtain ⟨test, rfl, read⟩ := parts reads
    exact ⟨value, read⟩
  case h_2 value =>
    obtain ⟨test, rfl, read⟩ := parts reads
    exact ⟨value, read⟩
  case h_3 value => cases reads; exact ⟨value, rfl⟩
  case h_4 value => cases reads; exact ⟨value, rfl⟩
  case h_5 value =>
    obtain ⟨⟨targets, iterable⟩, rfl, read⟩ := parts reads
    exact ⟨value, read⟩
  case h_6 value => cases reads; exact ⟨value, rfl⟩
  case h_7 value =>
    obtain ⟨⟨name, bound⟩, rfl, read⟩ := parts reads
    exact ⟨value, read⟩
  case h_8 value =>
    obtain ⟨name, rfl, read⟩ := parts reads
    exact ⟨value, name, rfl, read⟩
  case h_9 value => cases reads; exact ⟨value, rfl⟩
  case h_10 value =>
    obtain ⟨name, rfl, read⟩ := parts reads
    exact ⟨value, name, rfl, read⟩
  case h_11 value =>
    obtain ⟨⟨name, bindings⟩, rfl, read⟩ := parts reads
    exact ⟨value, read⟩
  case h_12 => cases reads

/-- What the parser reads from these tokens, if it comes to their close. -/
def holds? {α : Type} (name : String) (parser : Parser α) (inside : List Token) (close : Token) :
    Option α :=
  match parser (Cursor.ofTokens name (inside ++ [close])) with
  | .ok (value, after) => if after.rest = [close] then some value else none
  | .error _ => none

/-- What a tag holds is read wherever it stands. -/
theorem read_of_holds {α : Type} {parser : Parser α} (confined : Confined 0 parser) {name : String}
    {inside : List Token} {close : Token} (closes : close.kind.closes) {value : α}
    (holds : holds? name parser inside close = some value) {cursor : Cursor}
    (named : cursor.template = name) (enough : inside.length < cursor.size) (behind : List Token) :
    parser (cursor.before (inside ++ close :: behind)) =
      .ok (value, cursor.before (close :: behind)) := by
  unfold holds? at holds
  split at holds
  case h_1 read after run =>
    split at holds <;> cases holds
    case isTrue.refl ends =>
      have alone : inside.length < (Cursor.ofTokens name (inside ++ [close])).size := by
        simp [Cursor.ofTokens]
      obtain ⟨left, _, rfl, elsewhere⟩ := confined inside.length closes named.symm
        (Nat.le_refl _) alone enough List.nil_prefix run
      obtain rfl : left = [] := List.append_left_eq_self.mp ends
      exact elsewhere behind
  case h_2 => cases holds

end Grammar

/-- A run of text, or a tag. -/
inductive Item where
  | text (token : Token)
  | output (opener : Token) (inside : List Token) (close : Token)
  | directive (opener keyword : Token) (inside : List Token) (close : Token)

namespace Item

open Grammar

def tokens : Item → List Token
  | text token => [token]
  | output opener inside close => opener :: (inside ++ [close])
  | directive opener keyword inside close => opener :: keyword :: (inside ++ [close])

theorem tokens_ne_nil (item : Item) : item.tokens ≠ [] := by
  cases item <;> exact List.cons_ne_nil _ _

def keyword? : Item → Option Token
  | directive _ keyword _ _ => some keyword
  | _ => none

/-- What the item says, if an output holds one expression and a directive is complete. -/
def read? (limit : Int) (name : String) : Item → Option Piece
  | text token =>
    if token.kind = .text then some (.text token.value (some (token.position name))) else none
  | output opener inside close =>
    if opener.kind = .expressionOpen ∧ close.kind = .expressionClose then
      (holds? name (expression limit) inside close).map fun expr =>
        .output expr (some (opener.position name))
    else none
  | directive opener keyword inside close =>
    if opener.kind = .blockOpen ∧ keyword.kind = .keyword ∧ close.kind = .blockClose then
      (holds? name (heading (expression limit) keyword) inside close).map fun directive =>
        .directive directive (if directive.isPlaced then some (keyword.position name) else none)
    else none

variable {limit : Int} {name : String} {piece : Piece}

theorem of_read?_text {token : Token} (reads : (text token).read? limit name = some piece) :
    token.kind = .text ∧ piece = .text token.value (some (token.position name)) := by
  rw [read?] at reads
  split at reads <;> cases reads
  exact ⟨‹_›, rfl⟩

theorem of_read?_output {opener close : Token} {inside : List Token}
    (reads : (output opener inside close).read? limit name = some piece) :
    opener.kind = .expressionOpen ∧ close.kind = .expressionClose ∧
      ∃ expr, piece = .output expr (some (opener.position name)) ∧
        ∀ cursor : Cursor, cursor.template = name → inside.length < cursor.size → ∀ behind,
          expression limit (cursor.before (inside ++ close :: behind)) =
            .ok (expr, cursor.before (close :: behind)) := by
  rw [read?] at reads
  split at reads
  case isTrue kinds =>
    obtain ⟨expr, holds, rfl⟩ := Option.map_eq_some_iff.mp reads
    have closes : close.kind.closes := by rw [kinds.2]; decide
    exact ⟨kinds.1, kinds.2, expr, rfl, fun cursor named enough behind =>
      read_of_holds (expression_confined limit) closes holds named enough behind⟩
  case isFalse => cases reads

theorem of_read?_directive {opener keyword close : Token} {inside : List Token}
    (reads : (directive opener keyword inside close).read? limit name = some piece) :
    opener.kind = .blockOpen ∧ keyword.kind = .keyword ∧ close.kind = .blockClose ∧
      ∃ told, piece = .directive told
          (if told.isPlaced then some (keyword.position name) else none) ∧
        ∀ cursor : Cursor, cursor.template = name → inside.length < cursor.size → ∀ behind,
          ReadsHeading (expression limit) keyword (cursor.before (inside ++ close :: behind))
            (cursor.before (close :: behind)) told := by
  rw [read?] at reads
  split at reads
  case isTrue kinds =>
    obtain ⟨told, holds, rfl⟩ := Option.map_eq_some_iff.mp reads
    have closes : close.kind.closes := by rw [kinds.2.2]; decide
    exact ⟨kinds.1, kinds.2.1, kinds.2.2, told, rfl, fun cursor named enough behind =>
      readsHeading (read_of_holds (heading_confined (expression_confined limit) keyword) closes
        holds named enough behind)⟩
  case isFalse => cases reads

end Item

/-- An item with what it says. -/
structure Element (limit : Int) (name : String) where
  item : Item
  piece : Piece
  reads : item.read? limit name = some piece

namespace Element

variable {limit : Int} {name : String}

def allTokens (elements : List (Element limit name)) : List Token :=
  elements.flatMap fun element => element.item.tokens

def keywordTokens (elements : List (Element limit name)) : List Token :=
  elements.filterMap fun element => element.item.keyword?

def allPieces (elements : List (Element limit name)) : List Piece :=
  elements.map fun element => element.piece

def allBlockNames (elements : List (Element limit name)) : List String :=
  (allPieces elements).filterMap Piece.blockName?

variable (element : Element limit name) (elements more : List (Element limit name))

theorem allPieces_cons : allPieces (element :: elements) = element.piece :: allPieces elements :=
  rfl

theorem allPieces_append : allPieces (elements ++ more) = allPieces elements ++ allPieces more :=
  List.map_append

theorem allTokens_cons :
    allTokens (element :: elements) = element.item.tokens ++ allTokens elements :=
  List.flatMap_cons

theorem allTokens_lt (others left : List (Element limit name)) :
    (allTokens left).length < (allTokens (element :: others ++ left)).length := by
  have some := List.length_pos_iff.mpr element.item.tokens_ne_nil
  rw [List.cons_append, allTokens_cons, List.length_append]
  simp only [allTokens, List.flatMap_append, List.length_append]
  omega

theorem allTokens_append : allTokens (elements ++ more) = allTokens elements ++ allTokens more :=
  List.flatMap_append

end Element

end Templating
