import Templating.Grammar.Expression
import Templating.Template
import Templating.Token.Lexer

/-!
Templates read from tokens. Directives that enclose a body nest, and the nesting left is what the
recursion runs on; the enclosures that are open are at hand for the message when one is not closed.
-/

namespace Templating

namespace Grammar

open Templating.Parser

/-- An enclosure that is open and the keyword that opened it. -/
abbrev Opening := Enclosure × Token

/-- Reads a body up to a directive with one of these words, and gives the token of the word. -/
abbrev BodyParser := Enclosure → Token → List String → Parser (List Node × Token)

def endTag : Parser Unit := do
  let _ ← expect .blockClose "end of directive"

/-- Passes the start of a directive with this word. -/
def directive (word : String) : Parser Token := do
  let _ ← expect .blockOpen ("'" ++ word ++ "'")
  let keyword ← current
  if keyword.isKeyword word then advance else unexpected keyword (some ("'" ++ word ++ "'"))

/-- Adds text to the nodes before it, the last of which comes first. Text after text extends it, so
that a comment between them leaves no seam. -/
def appendText (content : String) (position : Option Position) : List Node → List Node
  | .text before first :: rest => .text (before ++ content) first :: rest
  | nodes => .text content position :: nodes

def output (whole : Parser Expr) : Parser Node := do
  let opener ← advance
  let expr ← whole
  let _ ← expect .expressionClose ("'" ++ opener.value ++ "' to be closed")
  return .output expr (← positionOf opener)

def branches (whole : Parser Expr) (body : List String → Parser (List Node × Token)) :
    Nat → Token → List Branch → Parser (List Branch × Token)
  | 0, terminator, before => return (before, terminator)
  | budget + 1, terminator, before => do
    if terminator.value = "elif" then
      let keyword ← directive "elif"
      let test ← whole
      endTag
      let (nodes, terminator) ← body ["elif", "else", "endif"]
      let branch := Branch.mk test nodes (← positionOf keyword)
      branches whole body budget terminator (before ++ [branch])
    else return (before, terminator)

/-- What follows the word `else`, if that word ended the last body. -/
def otherwise (body : List String → Parser (List Node × Token)) (terminator : Token)
    (endWord : String) : Parser (Option (List Node)) := do
  if terminator.value = "else" then
    let _ ← directive "else"
    endTag
    let (nodes, _) ← body [endWord]
    return some nodes
  else return none

def condition (whole : Parser Expr) (nested : BodyParser) (keyword : Token) :
    Parser Node := do
  let _ ← advance
  let test ← whole
  endTag
  let body := nested .condition keyword
  let (nodes, terminator) ← body ["elif", "else", "endif"]
  let (further, terminator) ← branches whole body (← size) terminator []
  let rest ← otherwise body terminator "endif"
  let _ ← directive "endif"
  endTag
  return .condition test nodes further rest (← positionOf keyword)

def loopTargets : Parser (List String) := do
  let first ← expect .identifier "loop variable name"
  if ← accept .comma then
    let second ← expect .identifier "second loop variable name"
    if second.value = first.value then
      unexpected second (some "distinct loop variable names")
    else return [first.value, second.value]
  else return [first.value]

def loop (whole : Parser Expr) (nested : BodyParser) (keyword : Token) : Parser Node := do
  let _ ← advance
  let targets ← loopTargets
  let word ← current
  if word.isKeyword "in" then
    let _ ← advance
    let iterable ← whole
    endTag
    let body := nested .loop keyword
    let (nodes, terminator) ← body ["else", "endfor"]
    let rest ← otherwise body terminator "endfor"
    let _ ← directive "endfor"
    endTag
    return .loop targets iterable nodes rest (← positionOf keyword)
  else unexpected word (some "'in'")

def binding (whole : Parser Expr) (keyword : Token) : Parser Node := do
  let _ ← advance
  let name ← expect .identifier "variable name after 'let'"
  let _ ← expect .assign "'=' after variable name"
  let value ← whole
  endTag
  return .binding name.value value (← positionOf keyword)

/-- Remembers a block; each name may be opened once. -/
def openBlock (name : Token) : Parser Unit := do
  match (← get).blocks.lookup name.value with
  | some first => refuse (.duplicateBlock name.value first.line first.column) name
  | none => modify fun cursor => { cursor with blocks := (name.value, name.mark) :: cursor.blocks }

/-- The name at the end of a block may be left out. -/
def closingName (name : String) : Parser Unit := do
  let closing ← current
  if closing.kind = .identifier then
    if closing.value = name then
      let _ ← advance
    else refuse (.mismatchedEnd closing.value name) closing

def block (nested : BodyParser) (keyword : Token) : Parser Node := do
  let _ ← advance
  let name ← expect .identifier "block name"
  endTag
  openBlock name
  let (nodes, _) ← nested .block keyword ["endblock"]
  let _ ← directive "endblock"
  closingName name.value
  endTag
  return .block name.value nodes (← positionOf keyword)

def parent (openings : List Opening) (keyword : Token) : Parser Node := do
  if openings.isEmpty then
    let _ ← advance
    let name ← expect .string "quoted parent template name"
    endTag
    return .parent name.value (← positionOf keyword)
  else refuse .extendsNotFirst keyword

def bindingPair (whole : Parser Expr) : Parser (String × Expr) := do
  let name ← expect .identifier "binding name"
  let _ ← expect .assign "'=' after binding name"
  return (name.value, ← whole)

def bindingsRest (whole : Parser Expr) :
    Nat → List (String × Expr) → Parser (List (String × Expr))
  | 0, before => return before ++ [← bindingPair whole]
  | budget + 1, before => do
    let pair ← bindingPair whole
    if ← accept .comma then bindingsRest whole budget (before ++ [pair])
    else return before ++ [pair]

def inclusion (whole : Parser Expr) (keyword : Token) : Parser Node := do
  let _ ← advance
  let name ← expect .string "quoted template name"
  let bindings ←
    if (← current).isKeyword "with" then
      let _ ← advance
      pure (some (← bindingsRest whole (← size) []))
    else pure none
  endTag
  return .inclusion name.value bindings (← positionOf keyword)

/-- The enclosures in which a word continues or ends a body. -/
def enclosuresOf (word : String) : List Enclosure :=
  if word = "elif" || word = "endif" then [.condition]
  else if word = "else" then [.condition, .loop]
  else if word = "endfor" then [.loop]
  else if word = "endblock" then [.block]
  else []

def statement (whole : Parser Expr) (nested : BodyParser) (openings : List Opening) :
    Parser Node := do
  let _ ← advance
  let keyword ← current
  if keyword.kind = .identifier then refuse (.unknownDirective keyword.value) keyword
  else if keyword.kind ≠ .keyword then unexpected keyword (some "directive keyword")
  else match keyword.value with
    | "if" => condition whole nested keyword
    | "for" => loop whole nested keyword
    | "let" => binding whole keyword
    | "block" => block nested keyword
    | "extends" => parent openings keyword
    | "include" => inclusion whole keyword
    | word =>
      if (enclosuresOf word).isEmpty then refuse (.unknownDirective word) keyword
      else refuse (.unmatched word (enclosuresOf word)) keyword

/-- The end of input ends a body only if nothing is open. -/
def finish (openings : List Opening) (before : List Node) : Parser (List Node × Token) :=
  match openings with
  | [] => return (before.reverse, ← current)
  | (enclosure, keyword) :: _ => refuse (.unclosed enclosure) keyword

/-- The nodes of a body; `before` holds those read so far, the last one first. -/
def nodes (whole : Parser Expr) (nested : BodyParser) (openings : List Opening)
    (terminators : List String) : Nat → List Node → Parser (List Node × Token)
  | 0, before => finish openings before
  | budget + 1, before => do
    let token ← current
    match token.kind with
    | .endOfInput => finish openings before
    | .text =>
      let _ ← advance
      let position ← positionOf token
      nodes whole nested openings terminators budget
        (appendText token.value position before)
    | .expressionOpen =>
      let node ← output whole
      nodes whole nested openings terminators budget (node :: before)
    | .blockOpen =>
      let keyword ← next
      if keyword.kind = .keyword && terminators.contains keyword.value then
        return (before.reverse, keyword)
      else
        let node ← statement whole nested openings
        nodes whole nested openings terminators budget (node :: before)
    | _ => unexpected token none

/-- The nodes up to one of these words, when so many enclosures may still be opened. -/
def bodyAt (limit : Int) : Nat → List Opening → List String → Parser (List Node × Token)
  | 0, openings, terminators => do
    nodes (expression limit) (fun _ keyword _ => refuse (.tooDeep limit) keyword) openings
      terminators (← size) []
  | depth + 1, openings, terminators => do
    nodes (expression limit)
      (fun enclosure keyword => bodyAt limit depth ((enclosure, keyword) :: openings))
      openings terminators (← size) []

/-- Only blank text may stand before the directive that names the parent; it is dropped. -/
def settleParent (body : List Node) : Except (Option Position) (List Node) :=
  let afterBlank := body.dropWhile Node.isBlankText
  let (settled, others) := match afterBlank with
    | .parent .. :: rest => (afterBlank, rest)
    | _ => (body, body)
  match others.find? Node.isParent with
  | some misplaced => .error misplaced.position
  | none => .ok settled

def refusalFault (name source : String) (refusal : Refusal) : Fault :=
  .of (.grammar refusal.1) (some (refusal.2.position name)) (some source)

end Grammar

namespace Template

open Grammar

/-- The template that a list of tokens spells, with nesting up to the limit. -/
def ofTokens (limit : Int) (name source : String) (tokens : List Token) :
    Except Fault Template :=
  match bodyAt limit limit.toNat [] [] (Cursor.ofTokens name tokens) with
  | .error refusal => .error (refusalFault name source refusal)
  | .ok ((body, _), _) =>
    match settleParent body with
    | .error position => .error (.of (.grammar .extendsNotFirst) position (some source))
    | .ok body => .ok { name := name, body := body, source := source }

def defaultDepth : Int := 64

/-- The template that a source text spells. -/
def compile (delimiters : Delimiters) (limit : Int) (name source : String) :
    Except Fault Template := do
  ofTokens limit name source (← tokenize delimiters name source)

end Template

end Templating
