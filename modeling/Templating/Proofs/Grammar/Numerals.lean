import Mathlib
import Templating.Proofs.Canonical.Body
import Templating.Proofs.Grammar.Origins
import Templating.Proofs.Grammar.TracksBody
import Templating.Proofs.Number.Finite

/-!
The numbers in a compiled template. Whole numbers that are too long are refused; a decimal beyond the
bound of finite values is not, and gives an infinite literal.
-/

namespace Templating

def Number.IsFinite : Number → Prop
  | .int _ => True
  | .float value => value.isFinite = true

/-- Only digits, too many of them to be read. -/
structure Token.IsHugeWhole (token : Token) : Prop where
  kind : token.kind = .number
  digits : ∀ c ∈ token.value.toList, Text.isDecimal c
  long : Numeral.greatestWholeLength < token.value.length

/-- A number with a point or an exponent whose exact value is beyond the finite values. -/
structure Token.IsHugeDecimal (token : Token) : Prop where
  kind : token.kind = .number
  decimal : token.value.toList.any fun c => c == '.' || c == 'e' || c == 'E'
  huge : ∃ ratio, Numeral.ratio? token.value = some ratio ∧ Binary64.finiteBound ≤ ratio

/-- The number that a token is read as, which is finite unless the token is a huge decimal. -/
structure Token.Reads (token : Token) (number : Number) : Prop where
  kind : token.kind = .number
  numeral : Grammar.numeral? token.value = some number
  range : number.IsFinite ∨ number = .float (.infinite false) ∧ token.IsHugeDecimal

theorem Token.IsHugeWhole.isTooLarge {token : Token} (huge : token.IsHugeWhole) :
    token.IsTooLarge where
  whole := by
    have some : token.value ≠ "" := by
      intro none
      have long := huge.long
      rw [none] at long
      exact absurd long (by decide)
    have digits : ∀ c ∈ token.value.toList, Text.isDigit c := fun c member => by
      rw [Text.isDigit, huge.digits c member, Bool.true_or]
    simpa [Grammar.isWholeNumeral, huge.kind, some] using digits
  unread := Numeral.numeral?_long huge.digits huge.long

theorem Token.Sound.gives {token : Token} (sound : token.Sound) : token.Gives token.Reads := by
  intro kind number read
  refine ⟨kind, read, ?_⟩
  rw [Token.Sound, kind] at sound
  obtain ⟨c, rest, spelled, decimal⟩ := sound
  unfold Grammar.numeral? at read
  split at read
  case isTrue marked =>
    obtain ⟨value, found, rfl⟩ := Option.map_eq_some_iff.mp read
    obtain ⟨ratio, spells, ⟨_, finite⟩ | ⟨huge, rfl⟩⟩ :=
      Numeral.decimal?_range spelled decimal found
    · exact .inl finite
    · exact .inr ⟨rfl, ⟨kind, marked, ratio, spells, huge⟩⟩
  case isFalse =>
    obtain ⟨value, _, rfl⟩ := Option.map_eq_some_iff.mp read
    exact .inl trivial

namespace Template

open Node Grammar

variable {limit : Int} {name source : String} {numbers : Number → Prop} {stop other : Token}
  {before behind others : List Token}

/-- The tokens of two texts up to a fork. -/
theorem beside_ofTokens (fork : Fork stop other) (same : others.length = behind.length)
    (inside : ∀ token ∈ before, token.kind ≠ .endOfInput)
    (gives : ∀ token ∈ before, token.Gives numbers) :
    Beside numbers stop other before (Cursor.ofTokens name (before ++ stop :: behind))
      (Cursor.ofTokens name (before ++ other :: others)) where
  fork := fork
  first := ⟨behind, rfl⟩
  second := ⟨others, rfl⟩
  template := rfl
  size := by simp [Cursor.ofTokens, same]
  blocks := rfl
  enough := by simp [Cursor.ofTokens]
  inside := inside
  gives := gives

theorem prefix_of_split {inner : List Token} {last : Token}
    (split : inner ++ [last] = before ++ stop :: behind) : before <+: inner := by
  have starts : before <+: inner ++ [last] := ⟨stop :: behind, split.symm⟩
  rcases List.prefix_concat_iff.mp starts with whole | starts
  · rw [whole] at split
    simp at split
  · exact starts

/-- Every number in a template is read from one of its tokens. -/
theorem ofTokens_numbers {last : Token} {template : Template} (ends : last.kind = .endOfInput)
    (inside : ∀ token ∈ before, token.kind ≠ .endOfInput)
    (gives : ∀ token ∈ before, token.Gives numbers)
    (read : ofTokens limit name source (before ++ [last]) = .ok template) :
    BodyNumbers numbers template.body := by
  obtain ⟨body, _, _, parsed, kept⟩ := parsed_of_ofTokens read
  have beside : Beside numbers last last before (Cursor.ofTokens name (before ++ [last]))
      (Cursor.ofTokens name (before ++ [last])) :=
    beside_ofTokens (.ends ends) rfl inside gives
  rcases bodyAt_steady limit limit.toNat [] [] _ beside (Nat.le_refl _) List.nil_prefix parsed
    with refused | ⟨_, _, _, _, _, whole⟩
  · rw [parsed] at refused
    cases refused
  · exact bodyEvery_iff.mpr fun node member =>
      bodyEvery_iff.mp whole.numbers node (kept.subset member)

/-- A whole number that is too long is refused, if the text before it can go on with another one. -/
theorem ofTokens_refused {accepted : Template} (large : stop.IsTooLarge)
    (number : other.kind = .number) (same : others.length = behind.length)
    (inside : ∀ token ∈ before, token.kind ≠ .endOfInput)
    (read : ofTokens limit name source (before ++ other :: others) = .ok accepted) :
    ofTokens limit name source (before ++ stop :: behind) =
      .error (refusalFault name source (.numberTooLarge stop.value, stop)) := by
  obtain ⟨_, _, _, parsed, _⟩ := parsed_of_ofTokens read
  have beside : Beside (fun _ => True) stop other before
      (Cursor.ofTokens name (before ++ stop :: behind))
      (Cursor.ofTokens name (before ++ other :: others)) :=
    beside_ofTokens (.parts large number) same inside fun _ _ _ _ _ => trivial
  rcases bodyAt_steady limit limit.toNat [] [] _ beside (Nat.le_refl _) List.nil_prefix parsed
    with refused | ⟨_, _, _, _, _, whole⟩
  · rw [ofTokens, refused]
  · have ends := whole.whole rfl
    rw [large.kind] at ends
    cases ends

/-- Every number in a compiled template is read from a token of its text, and is finite unless that
token is a decimal beyond the finite values. No text compiles in which a whole number is too long to
be read: that token is refused, if the tokens before it can go on with another number. -/
theorem compile_numbers {delimiters : Delimiters} {tokens : List Token}
    (lexed : tokenize delimiters name source = .ok tokens) :
    (∀ template, compile delimiters limit name source = .ok template →
      BodyNumbers (fun number => ∃ token ∈ tokens, token.Reads number) template.body) ∧
    ∀ before huge behind, tokens = before ++ huge :: behind → huge.IsHugeWhole →
      (∀ template, compile delimiters limit name source ≠ .ok template) ∧
      ∀ other others accepted, other.kind = .number → others.length = behind.length →
        ofTokens limit name source (before ++ other :: others) = .ok accepted →
        ∃ fault, compile delimiters limit name source = .error fault ∧
          fault.cause.kind = "UnexpectedToken" ∧ fault.position = some (huge.position name) := by
  have spelled : compile delimiters limit name source = ofTokens limit name source tokens := by
    rw [compile, lexed, Outcome.ok_bind]
  obtain ⟨inner, mark, closed, all⟩ := Lexer.tokens_closed (Lexer.tokens_of_tokenize lexed)
  rw [spelled]
  constructor
  · intro template read
    rw [closed] at read ⊢
    refine ofTokens_numbers rfl (fun token member => (all token member).inside) ?_ read
    exact fun token member kind number given =>
      ⟨token, List.mem_append_left _ member, (all token member).sound.gives kind number given⟩
  · intro before huge behind split large
    have inside : ∀ token ∈ before, token.kind ≠ .endOfInput := fun token member =>
      (all token ((prefix_of_split (closed.symm.trans split)).subset member)).inside
    have refused {other : Token} {others : List Token} {accepted : Template}
        (number : other.kind = .number) (same : others.length = behind.length)
        (read : ofTokens limit name source (before ++ other :: others) = .ok accepted) :
        ofTokens limit name source tokens =
          .error (refusalFault name source (.numberTooLarge huge.value, huge)) := by
      rw [split]
      exact ofTokens_refused large.isTooLarge number same inside read
    constructor
    · intro template read
      have fails := refused large.kind rfl (split ▸ read)
      rw [read] at fails
      cases fails
    · intro other others accepted number same read
      exact ⟨_, refused number same read, rfl, rfl⟩

/-- The tokens of a template that is one whole number. -/
theorem tokenize_digits (name : String) {digits : List Char} (some : digits ≠ [])
    (all : ∀ c ∈ digits, c.isDigit) : ∃ opens number closes ends : Mark,
    tokenize {} name (Canonical.output {} (String.ofList digits)) = .ok
      ([⟨.expressionOpen, "\x7b\x7b", opens⟩] ++ ⟨.number, String.ofList digits, number⟩ ::
        [⟨.expressionClose, "\x7d\x7d", closes⟩, ⟨.endOfInput, "", ends⟩]) := by
  have spells (tag : Lexer.TagEnd) (usual : tag.IsUsual) :
      Canonical.Spells tag (String.ofList digits) [(.number, String.ofList digits)] := by
    intro rest ends
    rw [String.toList_ofList]
    exact Canonical.reads_digits usual some all ends.number
  obtain ⟨tokens, ends, same, lexed⟩ :=
    Canonical.tokens_emitted (Canonical.emits_output spells [])
  simp only [Canonical.outputLexemes, List.cons_append, List.nil_append, List.map_eq_cons_iff,
    List.map_eq_nil_iff] at same
  obtain ⟨⟨_, _, opens⟩, _, rfl, first, ⟨_, _, number⟩, _, rfl, second, ⟨_, _, closes⟩, _, rfl, third,
    rfl⟩ := same
  obtain ⟨rfl, rfl⟩ := Prod.mk.inj first
  obtain ⟨rfl, rfl⟩ := Prod.mk.inj second
  obtain ⟨rfl, rfl⟩ := Prod.mk.inj third
  exact ⟨opens, number, closes, ends, by rw [tokenize, lexed]; rfl⟩

/-- A whole number with one digit more than are read. -/
def nines : List Char :=
  List.replicate (Numeral.greatestWholeLength + 1) '9'

theorem isDigit_nines : ∀ c ∈ nines, c.isDigit := by
  intro c member
  rw [List.eq_of_mem_replicate member]
  decide

theorem isHugeWhole_nines (mark : Mark) : Token.IsHugeWhole ⟨.number, String.ofList nines, mark⟩ where
  kind := rfl
  digits c member := Text.isDecimal_of_isDigit (isDigit_nines c (by simpa using member))
  long := by simp [nines]

/-- A finite number is read, and a number with a digit too many is refused where `1` is not. -/
theorem compile_numbers_nines :
    (∃ tokens template, tokenize {} "number" "\x7b\x7b 1.5 \x7d\x7d" = .ok tokens ∧
      compile {} defaultDepth "number" "\x7b\x7b 1.5 \x7d\x7d" = .ok template ∧
      BodyNumbers (fun number => ∃ token ∈ tokens, token.Reads number) template.body) ∧
    let source := Canonical.output {} (String.ofList nines)
    ∃ before huge behind, tokenize {} "number" source = .ok (before ++ huge :: behind) ∧
      huge.IsHugeWhole ∧ ∃ fault, compile {} defaultDepth "number" source = .error fault ∧
        fault.cause.kind = "UnexpectedToken" ∧ fault.position = some (huge.position "number") := by
  constructor
  · have lexed : ∃ tokens, tokenize {} "number" "\x7b\x7b 1.5 \x7d\x7d" = .ok tokens :=
      ⟨_, by cbv⟩
    have compiled : ∃ template,
        compile {} defaultDepth "number" "\x7b\x7b 1.5 \x7d\x7d" = .ok template := ⟨_, by cbv⟩
    obtain ⟨tokens, lexed⟩ := lexed
    obtain ⟨template, compiled⟩ := compiled
    exact ⟨tokens, template, lexed, compiled, (compile_numbers lexed).1 template compiled⟩
  · intro source
    have some : nines ≠ [] := by simp [nines, List.replicate_succ]
    obtain ⟨opens, number, closes, ends, lexed⟩ := tokenize_digits "number" some isDigit_nines
    have accepted : ∃ accepted, ofTokens defaultDepth "number" source
        ([⟨.expressionOpen, "\x7b\x7b", opens⟩] ++ ⟨.number, "1", number⟩ ::
          [⟨.expressionClose, "\x7d\x7d", closes⟩, ⟨.endOfInput, "", ends⟩]) = .ok accepted := by
      clear_value source
      exact ⟨_, by cbv⟩
    obtain ⟨accepted, read⟩ := accepted
    have huge := isHugeWhole_nines number
    exact ⟨_, _, _, lexed, huge,
      ((compile_numbers lexed).2 _ _ _ rfl huge).2 _ _ accepted rfl rfl read⟩

/-- A decimal beyond the finite values compiles to a literal that is not finite. -/
theorem compile_infinite : ∃ template,
    compile {} defaultDepth "number" "\x7b\x7b 1e999 \x7d\x7d" = .ok template ∧
      ¬ BodyNumbers Number.IsFinite template.body := by
  refine ⟨_, by cbv, ?_⟩
  intro all
  exact Bool.false_ne_true all.1

end Template

end Templating
