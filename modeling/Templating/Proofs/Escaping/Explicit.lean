import Templating.Proofs.Engine.Renderings

/-!
Escaping by the renderer and escaping by a filter: a template whose outputs are escaped by the
renderer ends as the one that escapes each of them by a filter of its own and is written as it is.
-/

namespace Templating

namespace Settings

/-- The same settings with this treatment of values that are written. -/
def withEscape (settings : Settings) (mode : EscapeMode) : Settings :=
  { settings with options := { settings.options with escape := mode } }

@[simp] theorem withEscape_filters (settings : Settings) (mode : EscapeMode) :
    (settings.withEscape mode).filters = settings.filters :=
  rfl

/-- The name of the escaping filter stands for the built-in one. -/
def EscapesByFilter (settings : Settings) : Prop :=
  settings.filters.find? "escape" = some (Builtin.plain Builtin.escape)

end Settings

namespace Expr

variable (settings : Settings) (mode : EscapeMode) (scope : Scope)

mutual

/-- How values are written has no part in what they are. -/
theorem eval_withEscape : ∀ expr : Expr,
    eval (settings.withEscape mode) scope expr = eval settings scope expr
  | .literal _ _ => rfl
  | .reference _ _ _ => rfl
  | .list items _ => by rw [eval, eval, evalAll_withEscape items]
  | .binary operator left right _ => by
    have one := eval_withEscape left
    have other := eval_withEscape right
    cases operator with
    | and | or => rw [eval, eval, one, other]
    | equal | unequal | member | compare | arithmetic | unknown =>
        rw [eval, eval, one, other]
        all_goals
          intro same
          cases same
  | .unary _ operand _ => by rw [eval, eval, eval_withEscape operand]
  | .filter base _ arguments named _ => by
    rw [eval, eval, Settings.withEscape_filters, eval_withEscape base,
      evalAll_withEscape arguments, evalNamed_withEscape named]

theorem evalAll_withEscape : ∀ items : List Expr,
    evalAll (settings.withEscape mode) scope items = evalAll settings scope items
  | [] => rfl
  | item :: items => by rw [evalAll, evalAll, eval_withEscape item, evalAll_withEscape items]

theorem evalNamed_withEscape : ∀ named : List (String × Expr),
    evalNamed (settings.withEscape mode) scope named = evalNamed settings scope named
  | [] => rfl
  | (_, value) :: rest => by
    rw [evalNamed, evalNamed, eval_withEscape value, evalNamed_withEscape rest]

end

/-- The expression with the escaping filter behind it, which stands at the given place. -/
def escaped (expr : Expr) (position : Option Position) : Expr :=
  .filter expr "escape" [] [] position

theorem eval_escaped {settings : Settings} (escapes : settings.EscapesByFilter) (scope : Scope)
    (expr : Expr) (position : Option Position) :
    (expr.escaped position).eval settings scope = (do
      let value ← expr.eval settings scope
      applyFilter (Builtin.plain Builtin.escape) "escape" value [] [] position) := by
  rw [escaped, eval, escapes]
  rfl

end Expr

namespace Rendering

/-- The text that an expression is written as, if its value has one. -/
def outputText (settings : Settings) (expr : Expr) (scope : Scope) : Except Failure String := do
  let value ← expr.eval settings scope
  if value.hasText then return shown settings.options.escape value else throw .noText

theorem node_output (settings : Settings) (insert : Insertion) (expr : Expr)
    (position : Option Position) (canvas : Canvas) :
    node settings insert (.output expr position) canvas =
      match outputText settings expr canvas.scope with
      | .ok text => (.ok (), { canvas with output := canvas.output ++ text })
      | .error failure => (.error failure, canvas) := by
  rw [node, outputText]
  cases evaluated : expr.eval settings canvas.scope with
  | error failure =>
      have fails : evaluate settings expr canvas = (.error failure, canvas) := by
        rw [evaluate_eq, evaluated]
      rw [Run.bind_error fails]
      rfl
  | ok value =>
      have evaluates : evaluate settings expr canvas = (.ok value, canvas) := by
        rw [evaluate_eq, evaluated]
      rw [Run.bind_ok evaluates, Outcome.ok_bind]
      cases value.hasText <;> rfl

/-- The filter leaves safe texts alone and makes other ones escaped and safe. -/
theorem escape_eq (value : Value) : Builtin.escape value =
    if value.hasText then .ok (.string (shown .html value) true) else .error .noText := by
  unfold Builtin.escape
  split
  case h_1 => rfl
  case h_2 other =>
    have plain : shown .html value = Text.escapeMarkup value.toText := by
      cases value with
      | string content safe =>
          cases safe with
          | false => rfl
          | true => exact (other content rfl).elim
      | _ => rfl
    rw [plain, Builtin.written]
    cases value.hasText <;> rfl

theorem applyFilter_escape (value : Value) (position : Option Position) :
    Expr.applyFilter (Builtin.plain Builtin.escape) "escape" value [] [] position =
      if value.hasText then .ok (.string (shown .html value) true) else .error .noText := by
  have applied : (Builtin.plain Builtin.escape).apply "escape" value [] [] =
      Builtin.escape value := rfl
  rw [Expr.applyFilter, applied, escape_eq]
  cases value.hasText <;> rfl

variable {settings : Settings}

/-- A value has no text for the filter exactly when it has none for the renderer, and what the
filter gives is safe, so that it is written as it is. -/
theorem outputText_escaped (escapes : settings.EscapesByFilter) (expr : Expr)
    (position : Option Position) (scope : Scope) :
    outputText (settings.withEscape .none) (expr.escaped position) scope =
      outputText (settings.withEscape .html) expr scope := by
  rw [outputText, outputText, Expr.eval_withEscape, Expr.eval_withEscape,
    Expr.eval_escaped escapes]
  cases expr.eval settings scope with
  | error failure => rfl
  | ok value =>
      rw [Outcome.ok_bind, applyFilter_escape, Outcome.ok_bind]
      cases value.hasText <;> rfl

end Rendering

mutual

/-- The node with the escaping filter behind the expression of every output in it. -/
def Node.escaped (place : Expr → Option Position) : Node → Node
  | .output expr position => .output (expr.escaped (place expr)) position
  | .condition test body branches otherwise position =>
    .condition test (escapedBody place body) (escapedBranches place branches)
      (escapedOption place otherwise) position
  | .loop targets iterable body otherwise position =>
    .loop targets iterable (escapedBody place body) (escapedOption place otherwise) position
  | .block name body position => .block name (escapedBody place body) position
  | .text content position => .text content position
  | .binding name value position => .binding name value position
  | .parent name position => .parent name position
  | .inclusion name bindings position => .inclusion name bindings position

def Node.escapedBody (place : Expr → Option Position) : List Node → List Node
  | [] => []
  | node :: rest => node.escaped place :: escapedBody place rest

def Node.escapedBranch (place : Expr → Option Position) : Branch → Branch
  | .mk test body position => .mk test (escapedBody place body) position

def Node.escapedBranches (place : Expr → Option Position) : List Branch → List Branch
  | [] => []
  | branch :: rest => escapedBranch place branch :: escapedBranches place rest

def Node.escapedOption (place : Expr → Option Position) : Option (List Node) → Option (List Node)
  | none => none
  | some body => some (escapedBody place body)

end

/-- The template with the escaping filter behind the expression of every output, its own and those of
the bodies it includes. -/
def Resolved.escaped (place : Expr → Option Position) (resolved : Resolved) : Resolved :=
  { resolved with
    body := Node.escapedBody place resolved.body
    includes := resolved.includes.map fun entry => (entry.1, Node.escapedBody place entry.2) }

namespace Rendering

theorem evaluate_withEscape (settings : Settings) (mode : EscapeMode) (expr : Expr) :
    evaluate (settings.withEscape mode) expr = evaluate settings expr := by
  funext canvas
  rw [evaluate_eq, evaluate_eq, Expr.eval_withEscape]

section

set_option linter.unusedSectionVars false

variable {settings : Settings} (escapes : settings.EscapesByFilter)
  (place : Expr → Option Position) {insert : Insertion}

include escapes

mutual

theorem node_escaped : ∀ item : Node,
    node (settings.withEscape .none) insert (item.escaped place) =
      node (settings.withEscape .html) insert item
  | .text _ _ => rfl
  | .output expr position => by
    funext canvas
    rw [Node.escaped, node_output, node_output, outputText_escaped escapes]
  | .condition test content branches otherwise _ => by
    rw [Node.escaped, node, node, evaluate_withEscape, evaluate_withEscape, body_escaped content,
      firstBranch_escaped branches, option_escaped otherwise]
  | .loop _ iterable content otherwise _ => by
    rw [Node.escaped, node, node, evaluate_withEscape, evaluate_withEscape, body_escaped content,
      option_escaped otherwise]
  | .binding _ value _ => by
    rw [Node.escaped, node, node, evaluate_withEscape, evaluate_withEscape]
  | .block _ content _ => by rw [Node.escaped, node, node, body_escaped content]
  | .parent _ _ => rfl
  | .inclusion _ _ _ => rfl

theorem body_escaped : ∀ nodes : List Node,
    body (settings.withEscape .none) insert (Node.escapedBody place nodes) =
      body (settings.withEscape .html) insert nodes
  | [] => rfl
  | first :: rest => by rw [Node.escapedBody, body, body, node_escaped first, body_escaped rest]

theorem branch_escaped : ∀ item : Branch,
    branch (settings.withEscape .none) insert (Node.escapedBranch place item) =
      branch (settings.withEscape .html) insert item
  | .mk test content _ => by
    rw [Node.escapedBranch, branch, branch, evaluate_withEscape, evaluate_withEscape,
      body_escaped content]

theorem firstBranch_escaped : ∀ branches : List Branch,
    firstBranch (settings.withEscape .none) insert (Node.escapedBranches place branches) =
      firstBranch (settings.withEscape .html) insert branches
  | [] => rfl
  | first :: rest => by
    rw [Node.escapedBranches, firstBranch, firstBranch, branch_escaped first,
      firstBranch_escaped rest]

theorem option_escaped : ∀ content : Option (List Node),
    option (settings.withEscape .none) insert (Node.escapedOption place content) =
      option (settings.withEscape .html) insert content
  | none => rfl
  | some content => by rw [Node.escapedOption, option, option, body_escaped content]

end

/-- By induction on the levels of inclusions that are left: what an inclusion renders is a body of
the table with an escape behind every output, and the inclusions in it are a level further down. -/
theorem insertion_escaped (includes : Dictionary (List Node)) (left : Nat) :
    insertion (settings.withEscape .none)
        (includes.map fun entry => (entry.1, Node.escapedBody place entry.2)) left =
      insertion (settings.withEscape .html) includes left := by
  induction left with
  | zero =>
      funext name bindings position
      rw [insertion, insertion, Dictionary.get?_mapped]
      cases includes.get? name <;> rfl
  | succ left ih =>
      funext name bindings position
      rw [insertion, insertion, Dictionary.get?_mapped]
      cases includes.get? name with
      | none => rfl
      | some content =>
          dsimp only [Option.map_some]
          rw [ih, body_escaped escapes place content]
          simp only [Expr.evalNamed_withEscape]

theorem whole_escaped (resolved : Resolved) :
    whole (settings.withEscape .none) (resolved.escaped place) =
      whole (settings.withEscape .html) resolved := by
  rw [whole, whole]
  dsimp only [Resolved.escaped]
  rw [body_escaped escapes, insertion_escaped escapes]
  rfl

end

end Rendering

/-- The rendering in HTML mode ends as that of the escaped template that is written as it is. -/
theorem Resolved.renderIn_escaped {settings : Settings} (escapes : settings.EscapesByFilter)
    (place : Expr → Option Position) (resolved : Resolved) (scope : Scope) :
    (resolved.escaped place).renderIn (settings.withEscape .none) scope =
      resolved.renderIn (settings.withEscape .html) scope := by
  rw [renderIn, renderIn, Rendering.whole_escaped escapes]
  rfl

namespace Engine

/-- The same engine with this treatment of values that are written. -/
def withEscape (engine : Engine) (mode : EscapeMode) : Engine :=
  { engine with options := { engine.options with escape := mode } }

/-- An engine with the built-in filters that escapes whatever it writes renders a template exactly
as one that escapes nothing renders the template with the escaping filter behind every output. -/
theorem renderResolved_escaped (options : Options) (delimiters : Delimiters)
    (place : Expr → Option Position) (resolved : Resolved) (origin : Origin) (session : Session) :
    let engine : Engine := { filters := .builtin, options := options, delimiters := delimiters }
    (engine.withEscape .html).renderResolved resolved origin session =
      (engine.withEscape .none).renderResolved (resolved.escaped place) origin session := by
  intro engine
  have escapes : engine.settings.EscapesByFilter := rfl
  rw [renderResolved_eq, renderResolved_eq]
  exact congrArg (fun rendered => (rendered.1, session))
    (resolved.renderIn_escaped escapes place origin.start).symm

end Engine

end Templating
