import Templating.Grammar.Expression

/-!
The grammar of expressions, apart from any parser: which tokens spell which expression. A derivation
relates tokens to those behind what is spelled, so that a rule can ask what follows.

expression → disjunction ("|" IDENTIFIER ("(" arguments ")" | bare*))*
disjunction → operands of `or`, of `and`, of comparisons, of sums and of products, level by level
unary → ("-" | "!" | "not") unary | primary
primary → literal | list | variable | "(" expression ")"
variable → IDENTIFIER ("." IDENTIFIER | "[" (NUMBER | STRING) "]")*
-/

namespace Templating

/-- That the tokens before the rest of them spell a value. -/
abbrev Derivation (α : Type) := List Token → List Token → α → Prop

namespace Derivation

open Grammar

/-- The kind of the token that comes next. Tokens without an end of input end all the same. -/
def ahead (tokens : List Token) : TokenKind :=
  (tokens.head?.map (·.kind)).getD .endOfInput

/-- Nothing is derived. -/
def nothing {α : Type} : Derivation α :=
  fun _ _ _ => False

/-- What stands in the brackets of a step: only digits, or a string. -/
inductive Index : Token → Segment → Prop where
  | position {token : Token} {position : Int} (digits : isWholeNumeral token)
      (converts : numeral? token.value = some (.int position)) : Index token (.index position)
  | key {token : Token} (quoted : token.kind = .string) : Index token (.key token.value)

/-- The steps of a variable. -/
inductive Path : Derivation (List Segment) where
  | done {tokens : List Token} : Path tokens tokens []
  | dotted {dot name : Token} {tokens rest : List Token} {path : List Segment}
      (separates : dot.kind = .dot) (named : name.kind = .identifier)
      (further : Path tokens rest path) :
      Path (dot :: name :: tokens) rest (.key name.value :: path)
  | bracketed {opening index closing : Token} {tokens rest : List Token} {segment : Segment}
      {path : List Segment} (opens : opening.kind = .leftBracket) (inside : Index index segment)
      (closes : closing.kind = .rightBracket) (further : Path tokens rest path) :
      Path (opening :: index :: closing :: tokens) rest (segment :: path)

section

variable {α : Type}

/-- Items with commas between them, at least one, and the bracket that closes them. -/
inductive Closed (closing : TokenKind) (item : Derivation α) : Derivation (List α) where
  | last {tokens rest : List Token} {close : Token} {value : α}
      (first : item tokens (close :: rest) value) (closes : close.kind = closing) :
      Closed closing item tokens rest [value]
  | more {tokens between rest : List Token} {comma : Token} {value : α} {values : List α}
      (first : item tokens (comma :: between) value) (separates : comma.kind = .comma)
      (further : Closed closing item between rest values) :
      Closed closing item tokens rest (value :: values)

/-- Items up to the bracket that closes them. -/
inductive Bracketed (closing : TokenKind) (item : Derivation α) : Derivation (List α) where
  | empty {close : Token} {rest : List Token} (closes : close.kind = closing) :
      Bracketed closing item (close :: rest) rest []
  | items {tokens rest : List Token} {values : List α}
      (closed : Closed closing item tokens rest values) :
      Bracketed closing item tokens rest values

/-- A first value and any number of turns, each of which extends what is there so far. -/
inductive Chain (first : Derivation α) (turn : α → Derivation α) : Derivation α where
  | start {tokens rest : List Token} {value : α} (derives : first tokens rest value) :
      Chain first turn tokens rest value
  | further {tokens between rest : List Token} {value longer : α}
      (chain : Chain first turn tokens between value) (goesOn : turn value between rest longer) :
      Chain first turn tokens rest longer

end

variable (template : String)

/-- What no operator splits; `nested` derives what stands in brackets. -/
inductive Primary (nested : Derivation Expr) : Derivation Expr where
  | number {token : Token} {rest : List Token} {number : Number} (kind : token.kind = .number)
      (converts : numeral? token.value = some number) :
      Primary nested (token :: rest) rest
        (.literal (.number number) (some (token.position template)))
  | string {token : Token} {rest : List Token} (kind : token.kind = .string) :
      Primary nested (token :: rest) rest
        (.literal (.string token.value) (some (token.position template)))
  | boolean {token : Token} {rest : List Token} (kind : token.kind = .boolean) :
      Primary nested (token :: rest) rest
        (.literal (.bool (token.value == "true")) (some (token.position template)))
  | null {token : Token} {rest : List Token} (kind : token.kind = .null) :
      Primary nested (token :: rest) rest (.literal .null (some (token.position template)))
  | list {token : Token} {tokens rest : List Token} {items : List Expr}
      (kind : token.kind = .leftBracket)
      (bracketed : Bracketed .rightBracket nested tokens rest items) :
      Primary nested (token :: tokens) rest (.list items (some (token.position template)))
  | group {token close : Token} {tokens rest : List Token} {value : Expr}
      (kind : token.kind = .leftParen) (inside : nested tokens (close :: rest) value)
      (closes : close.kind = .rightParen) : Primary nested (token :: tokens) rest value
  | reference {token : Token} {tokens rest : List Token} {path : List Segment}
      (kind : token.kind = .identifier) (steps : Path tokens rest path)
      (noDot : ahead rest ≠ .dot) (noBracket : ahead rest ≠ .leftBracket) :
      Primary nested (token :: tokens) rest
        (.reference token.value path (some (token.position template)))

/-- An operator of the level with its right operand. -/
inductive Operation (operator? : Token → Option BinaryOperator) (operand : Derivation Expr)
    (left : Expr) : Derivation Expr where
  | right {token : Token} {tokens rest : List Token} {operator : BinaryOperator} {right : Expr}
      (reads : operator? token = some operator) (derives : operand tokens rest right) :
      Operation operator? operand left (token :: tokens) rest
        (.binary operator left right (some (token.position template)))

def LeftAssociative (operator? : Token → Option BinaryOperator) (operand : Derivation Expr) :
    Derivation Expr :=
  Chain operand (Operation template operator? operand)

def Disjunction (operand : Derivation Expr) : Derivation Expr :=
  LeftAssociative template orOperator? (LeftAssociative template andOperator?
    (LeftAssociative template comparisonOperator? (LeftAssociative template sumOperator?
      (LeftAssociative template productOperator? operand))))

/-- An argument of a filter, with its name if it has one. -/
inductive Argument (value : Derivation Expr) : Derivation (Option String × Expr) where
  | positional {tokens rest : List Token} {expr : Expr} (derives : value tokens rest expr) :
      Argument value tokens rest (none, expr)
  | named {name colon : Token} {tokens rest : List Token} {expr : Expr}
      (word : name.kind = .identifier ∨ name.kind = .string) (separates : colon.kind = .colon)
      (derives : value tokens rest expr) :
      Argument value (name :: colon :: tokens) rest (some name.value, expr)

/-- Arguments without parentheses, as many as there are. -/
inductive Bare (value : Derivation Expr) : Derivation (List (Option String × Expr)) where
  | done {tokens : List Token} : Bare value tokens tokens []
  | more {tokens between rest : List Token} {argument : Option String × Expr}
      {arguments : List (Option String × Expr)} (starts : startsBareArgument (ahead tokens))
      (first : Argument value tokens between argument)
      (further : Bare value between rest arguments) :
      Bare value tokens rest (argument :: arguments)

/-- The arguments in the order in which they are written. -/
def listed (arguments : Arguments) : List (Option String × Expr) :=
  arguments.positional.map (none, ·) ++
    arguments.named.map fun argument => (some argument.1, argument.2)

/-- The arguments with a name come last, and each name comes once. -/
structure Arranged (written : List (Option String × Expr)) (arguments : Arguments) : Prop where
  order : written = listed arguments
  distinct : (arguments.named.map (·.1)).Nodup

/-- A filter and its arguments, with or without parentheses around them. -/
inductive Application (nested : Derivation Expr) (base : Expr) : Derivation Expr where
  | closed {bar name opening : Token} {tokens rest : List Token}
      {written : List (Option String × Expr)} {arguments : Arguments} (pipe : bar.kind = .pipe)
      (named : name.kind = .identifier) (opens : opening.kind = .leftParen)
      (derives : Bracketed .rightParen (Argument nested) tokens rest written)
      (arranged : Arranged written arguments) :
      Application nested base (bar :: name :: opening :: tokens) rest
        (.filter base name.value arguments.positional arguments.named
          (some (name.position template)))
  | bare {bar name : Token} {tokens rest : List Token} {written : List (Option String × Expr)}
      {arguments : Arguments} (pipe : bar.kind = .pipe) (named : name.kind = .identifier)
      (derives : Bare (Primary template nested) tokens rest written)
      (arranged : Arranged written arguments) :
      Application nested base (bar :: name :: tokens) rest
        (.filter base name.value arguments.positional arguments.named
          (some (name.position template)))

def Filtered (unary nested : Derivation Expr) : Derivation Expr :=
  Chain (Disjunction template unary) (Application template nested)

/-- A sign before an operand, or what no operator splits. -/
inductive Signed (operand unsplit : Derivation Expr) : Derivation Expr where
  | plain {tokens rest : List Token} {value : Expr} (derives : unsplit tokens rest value) :
      Signed operand unsplit tokens rest value
  | sign {token : Token} {tokens rest : List Token} {operator : UnaryOperator} {value : Expr}
      (reads : unaryOperator? token = some operator) (derives : operand tokens rest value) :
      Signed operand unsplit (token :: tokens) rest
        (.unary operator value (some (token.position template)))

mutual

/-- A whole expression with at most so many levels of nesting, itself included. Groups, items of
lists, arguments in parentheses and signs nest. -/
def Whole : Nat → Derivation Expr
  | 0 => nothing
  | depth + 1 => Filtered template (Unary depth) (Whole depth)

/-- An operand with at most so many levels of nesting in it. -/
def Unary : Nat → Derivation Expr
  | 0 => Signed template nothing (Primary template nothing)
  | depth + 1 =>
    Signed template (Unary depth) (Primary template (Filtered template (Unary depth) (Whole depth)))

end

variable {template}

/-- What the first one derives, the second one derives as well. -/
def Includes {α : Type} (first second : Derivation α) : Prop :=
  ∀ ⦃tokens rest value⦄, first tokens rest value → second tokens rest value

section

variable {α : Type} {item other : Derivation α} {closing : TokenKind}

theorem Closed.includes (includes : Includes item other) :
    Includes (Closed closing item) (Closed closing other) := by
  intro tokens rest values closed
  induction closed with
  | last first closes => exact .last (includes first) closes
  | more first separates _ ih => exact .more (includes first) separates ih

theorem Bracketed.includes (includes : Includes item other) :
    Includes (Bracketed closing item) (Bracketed closing other) := by
  intro tokens rest values bracketed
  cases bracketed with
  | empty closes => exact .empty closes
  | items closed => exact .items (Closed.includes includes closed)

theorem Chain.includes {turn further : α → Derivation α} (includes : Includes item other)
    (turns : ∀ value, Includes (turn value) (further value)) :
    Includes (Chain item turn) (Chain other further) := by
  intro tokens rest value chain
  induction chain with
  | start derives => exact .start (includes derives)
  | further _ goesOn ih => exact .further ih (turns _ goesOn)

end

section

variable {nested other : Derivation Expr}

theorem Primary.includes (includes : Includes nested other) :
    Includes (Primary template nested) (Primary template other) := by
  intro tokens rest value derived
  cases derived with
  | number kind converts => exact .number kind converts
  | string kind => exact .string kind
  | boolean kind => exact .boolean kind
  | null kind => exact .null kind
  | list kind bracketed => exact .list kind (Bracketed.includes includes bracketed)
  | group kind inside closes => exact .group kind (includes inside) closes
  | reference kind steps noDot noBracket => exact .reference kind steps noDot noBracket

theorem LeftAssociative.includes (operator? : Token → Option BinaryOperator)
    (includes : Includes nested other) :
    Includes (LeftAssociative template operator? nested)
      (LeftAssociative template operator? other) := by
  refine Chain.includes includes fun left tokens rest value derived => ?_
  cases derived with
  | right reads derives => exact .right reads (includes derives)

theorem Disjunction.includes (includes : Includes nested other) :
    Includes (Disjunction template nested) (Disjunction template other) :=
  LeftAssociative.includes _ (LeftAssociative.includes _ (LeftAssociative.includes _
    (LeftAssociative.includes _ (LeftAssociative.includes _ includes))))

theorem Argument.includes (includes : Includes nested other) :
    Includes (Argument nested) (Argument other) := by
  intro tokens rest argument derived
  cases derived with
  | positional derives => exact .positional (includes derives)
  | named word separates derives => exact .named word separates (includes derives)

theorem Bare.includes (includes : Includes nested other) : Includes (Bare nested) (Bare other) := by
  intro tokens rest arguments derived
  induction derived with
  | done => exact .done
  | more starts first _ ih => exact .more starts (Argument.includes includes first) ih

theorem Application.includes (includes : Includes nested other) (base : Expr) :
    Includes (Application template nested base) (Application template other base) := by
  intro tokens rest value derived
  cases derived with
  | closed pipe named opens derives arranged =>
      exact .closed pipe named opens (Bracketed.includes (Argument.includes includes) derives)
        arranged
  | bare pipe named derives arranged =>
      exact .bare pipe named (Bare.includes (Primary.includes includes) derives) arranged

theorem Filtered.includes {unary further : Derivation Expr} (operands : Includes unary further)
    (includes : Includes nested other) :
    Includes (Filtered template unary nested) (Filtered template further other) :=
  Chain.includes (Disjunction.includes operands) (Application.includes includes)

theorem Signed.includes {operand further : Derivation Expr} (operands : Includes operand further)
    (includes : Includes nested other) :
    Includes (Signed template operand nested) (Signed template further other) := by
  intro tokens rest value derived
  cases derived with
  | plain derives => exact .plain (includes derives)
  | sign reads derives => exact .sign reads (operands derives)

end

/-- What is derived with some nesting is derived with more. -/
theorem whole_includes (template : String) {depth deeper : Nat} (within : depth ≤ deeper) :
    Includes (Whole template depth) (Whole template deeper) ∧
      Includes (Unary template depth) (Unary template deeper) := by
  have none {α : Type} (other : Derivation α) : Includes nothing other :=
    fun _ _ _ never => never.elim
  induction depth generalizing deeper with
  | zero =>
      refine ⟨none _, ?_⟩
      cases deeper with
      | zero => exact fun _ _ _ derived => derived
      | succ deeper => exact Signed.includes (none _) (Primary.includes (none _))
  | succ depth ih =>
      cases deeper with
      | zero => exact absurd within (Nat.not_succ_le_zero depth)
      | succ deeper =>
          obtain ⟨whole, unary⟩ := ih (Nat.le_of_succ_le_succ within)
          have wholes : Includes (Whole template (depth + 1)) (Whole template (deeper + 1)) :=
            Filtered.includes unary whole
          exact ⟨wholes, Signed.includes unary (Primary.includes wholes)⟩

end Derivation

end Templating
