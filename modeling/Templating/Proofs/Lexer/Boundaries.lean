import Templating.Proofs.Lexer.Located
import Templating.Proofs.Lexer.Outside

/-!
What a tag or comment reads is decided by its own text. A closing delimiter stands ahead of every
lexeme in it, and no lexeme goes past that, so any other text can stand behind the tag.
-/

namespace Templating.Lexer

variable {text left rest other : List Char} {mark place : Mark}

theorem past_append (mark : Mark) (text rest : List Char) :
    mark.past (text ++ rest) = (mark.past text).past rest :=
  List.foldl_append

theorem takeWhile_closed (accepts : Char → Bool) {c : Char} (stops : accepts c = false)
    (closed : c ∈ text) (rest : List Char) :
    (text ++ rest).takeWhile accepts = text.takeWhile accepts ∧
      (text ++ rest).dropWhile accepts = text.dropWhile accepts ++ rest ∧
      c ∈ text.dropWhile accepts := by
  induction text with
  | nil => cases closed
  | cons d text ih =>
      cases accepted : accepts d with
      | false => simpa [accepted] using closed
      | true =>
          have different : c ≠ d := by
            rintro rfl
            rw [stops] at accepted
            cases accepted
          simpa [accepted] using ih ((List.mem_cons.mp closed).resolve_left different)

theorem isPrefixOf_append {start : List Char} (fits : start.length ≤ text.length)
    (rest : List Char) : start.isPrefixOf (text ++ rest) = start.isPrefixOf text := by
  induction start generalizing text with
  | nil => simp
  | cons c start ih =>
      cases text with
      | nil => simp at fits
      | cons d text => simp [List.isPrefixOf, ih (by simpa using fits)]

theorem fractionLexeme_closed (closed : '\x7d' ∈ text) (rest : List Char) :
    fractionLexeme (text ++ rest) = fractionLexeme text ∧
      '\x7d' ∈ text.drop (fractionLexeme text).length := by
  cases text with
  | nil => cases closed
  | cons c text =>
      by_cases point : c = '.'
      · subst point
        have inside : '\x7d' ∈ text := by simpa using closed
        have ⟨digits, _, behind⟩ := takeWhile_closed Text.isDecimal rfl inside rest
        rw [← drop_takeWhile] at behind
        by_cases none : text.takeWhile Text.isDecimal = []
        · simpa [fractionLexeme, digits, none] using closed
        · simpa [fractionLexeme, digits, none] using behind
      · simpa [fractionLexeme, point] using closed

theorem exponentLexeme_closed (closed : '\x7d' ∈ text) (rest : List Char) :
    exponentLexeme (text ++ rest) = exponentLexeme text := by
  cases text with
  | nil => cases closed
  | cons e text =>
      obtain rfl | inside := List.mem_cons.mp closed
      · simp [exponentLexeme]
      cases text with
      | nil => cases inside
      | cons c text =>
          by_cases sign : c = '+' ∨ c = '-'
          · have behind : '\x7d' ∈ text := by
              obtain rfl | rfl := sign <;> simpa using inside
            simp [exponentLexeme, sign, (takeWhile_closed Text.isDecimal rfl behind rest).1]
          · have digits := (takeWhile_closed Text.isDecimal rfl inside rest).1
            rw [List.cons_append] at digits
            simp [exponentLexeme, sign, digits]

theorem numberLexeme_closed (closed : '\x7d' ∈ text) (rest : List Char) :
    numberLexeme (text ++ rest) = numberLexeme text := by
  have ⟨whole, others, behind⟩ := takeWhile_closed Text.isDecimal rfl closed rest
  have ⟨fraction, ends⟩ := fractionLexeme_closed behind rest
  have fits := (fractionLexeme_isPrefix (text.dropWhile Text.isDecimal)).length_le
  simp only [numberLexeme, whole, others, fraction, List.drop_append_of_le_length fits,
    exponentLexeme_closed ends]

theorem nameLexeme_closed (closed : '\x7d' ∈ text) (rest : List Char) :
    nameLexeme (text ++ rest) = nameLexeme text := by
  cases text with
  | nil => cases closed
  | cons c text =>
      have whole := (takeWhile_closed Text.isNamePart rfl closed rest).1
      rw [List.cons_append] at whole
      simp only [nameLexeme, List.cons_append, whole]

/-- A literal is the text up to its closing quote, whatever stands behind that. -/
theorem stringBody_anywhere {quote : Char} {value : List Char} {after : Reader}
    (read : stringBody quote mark text = .ok (value, after)) :
    ∃ passed, text = passed ++ after.rest ∧
      ∀ other, stringBody quote mark (passed ++ other) = .ok (value, ⟨other, after.mark⟩) := by
  fun_induction stringBody quote mark text generalizing value after with
  | case1 | case3 | case4 => cases read
  | case2 mark rest =>
      cases read
      exact ⟨[quote], rfl, fun other => stringBody_close quote mark other⟩
  | case5 mark escaped rest replacement known different ih =>
      obtain ⟨⟨others, ends⟩, inner, same⟩ := Outcome.map_eq_ok.mp read
      cases same
      obtain ⟨passed, rfl, reads⟩ := ih inner
      refine ⟨'\\' :: escaped :: passed, rfl, fun other => ?_⟩
      rw [List.cons_append, List.cons_append, stringBody_escape different known, reads]
      rfl
  | case6 mark c rest different plain ih =>
      obtain ⟨⟨others, ends⟩, inner, same⟩ := Outcome.map_eq_ok.mp read
      cases same
      obtain ⟨passed, rfl, reads⟩ := ih inner
      refine ⟨c :: passed, rfl, fun other => ?_⟩
      rw [List.cons_append, stringBody_plain different plain, reads]
      rfl

theorem stringToken_anywhere {tag : TagEnd} {quote : Char} {token : Token} {after : Reader}
    (read : stringToken tag quote ⟨quote :: text, mark⟩ = .ok (token, after)) :
    ∃ passed, text = passed ++ after.rest ∧ ∀ other,
      stringToken tag quote ⟨quote :: (passed ++ other), mark⟩ = .ok (token, ⟨other, after.mark⟩) := by
  simp only [stringToken, List.drop_succ_cons, List.drop_zero] at read ⊢
  cases body : stringBody quote (mark.step quote) text with
  | error stop => cases stop <;> simp [body] at read
  | ok run =>
      obtain ⟨passed, same, reads⟩ := stringBody_anywhere body
      simp only [body, Except.ok.injEq, Prod.mk.injEq] at read
      obtain ⟨rfl, rfl⟩ := read
      exact ⟨passed, same, fun other => by rw [reads]⟩

theorem lexemeToken_elsewhere (left : List Char) {lexeme : List Char} {kind : TokenKind} {token : Token}
    (starts : lexeme <+: text)
    (read : lexemeToken kind lexeme ⟨text ++ rest, mark⟩ = (token, ⟨left ++ rest, place⟩))
    (other : List Char) :
    lexemeToken kind lexeme ⟨text ++ other, mark⟩ = (token, ⟨left ++ other, place⟩) := by
  obtain ⟨behind, rfl⟩ := starts
  rw [List.append_assoc, lexemeToken_append] at read ⊢
  simp only [Prod.mk.injEq, Reader.mk.injEq, List.append_cancel_right_eq] at read ⊢
  exact read

/-- The text goes on to a closing delimiter of this tag and no further. -/
structure TagEnd.Closes (tag : TagEnd) (text : List Char) : Prop where
  usual : tag.IsUsual
  ends : tag.close <:+ text

namespace TagEnd.Closes

variable {tag : TagEnd}

theorem brace (closes : tag.Closes text) : '\x7d' ∈ text := by
  obtain ⟨before, rfl⟩ := closes.ends
  obtain close | close := closes.usual <;> simp [close]

theorem length (closes : tag.Closes text) : tag.close.length = 2 ∧ 2 ≤ text.length := by
  obtain ⟨before, rfl⟩ := closes.ends
  obtain close | close := closes.usual <;> simp [close]

theorem afterBlanks (closes : tag.Closes text) : tag.Closes (text.dropWhile Text.isBlank) := by
  obtain ⟨usual, before, rfl⟩ := closes
  have close : tag.close.dropWhile Text.isBlank = tag.close := by
    obtain close | close := usual <;> rw [close] <;> rfl
  refine ⟨usual, ?_⟩
  rw [List.dropWhile_append, close]
  split
  · exact List.suffix_rfl
  · exact List.suffix_append _ _

/-- Whether the closing delimiter or a hyphen before it comes next is seen in the text. -/
theorem startsWith (closes : tag.Closes text) (rest : List Char) :
    ('-' :: tag.close).isPrefixOf (text ++ rest) = ('-' :: tag.close).isPrefixOf text ∧
      tag.close.isPrefixOf (text ++ rest) = tag.close.isPrefixOf text := by
  have ⟨length, fits⟩ := closes.length
  refine ⟨?_, isPrefixOf_append (length ▸ fits) rest⟩
  by_cases long : 3 ≤ text.length
  · exact isPrefixOf_append (by simp [length]; omega) rest
  · have only : tag.close = text := closes.ends.eq_of_length (by omega)
    rw [← only]
    obtain close | close := closes.usual <;> rw [close] <;> rfl

end TagEnd.Closes

theorem symbols_short : ∀ symbol ∈ symbols, symbol.1.toList.length ≤ 2 := by
  decide

/-- A token before the closing delimiter is read whatever stands behind that. -/
theorem tagToken_elsewhere {tag : TagEnd} {token : Token} (closes : tag.Closes text)
    (read : tagToken tag ⟨text ++ rest, mark⟩ = .ok (token, ⟨left ++ rest, place⟩))
    (other : List Char) :
    tagToken tag ⟨text ++ other, mark⟩ = .ok (token, ⟨left ++ other, place⟩) := by
  cases text with
  | nil => cases closes.brace
  | cons c text =>
      have number := numberLexeme_closed closes.brace
      have name := nameLexeme_closed closes.brace
      have found (rest : List Char) :
          symbols.find? (fun symbol => symbol.1.toList.isPrefixOf (c :: text ++ rest)) =
            symbols.find? fun symbol => symbol.1.toList.isPrefixOf (c :: text) :=
        List.find?_congr fun symbol member => isPrefixOf_append
          (Nat.le_trans (symbols_short symbol member) closes.length.2) rest
      simp only [tagToken, Reader.startsWith, number, name, found] at read ⊢
      simp only [List.cons_append] at read ⊢
      split at read
      case isTrue quote =>
        rw [if_pos quote]
        obtain ⟨passed, same, reads⟩ := stringToken_anywhere read
        rw [← List.append_assoc, List.append_cancel_right_eq] at same
        rw [same, List.append_assoc]
        exact reads _
      case isFalse quote =>
        rw [if_neg quote]
        split at read
        case isTrue digits =>
          rw [if_pos digits]
          exact congrArg _ (lexemeToken_elsewhere _ (numberLexeme_isPrefix _) (Except.ok.inj read) other)
        case isFalse digits =>
          rw [if_neg digits]
          split at read
          case isTrue word =>
            rw [if_pos word]
            exact congrArg _ (lexemeToken_elsewhere _ (nameLexeme_isPrefix _) (Except.ok.inj read) other)
          case isFalse word =>
            rw [if_neg word]
            split at read
            case h_1 symbol kind known =>
              have starts := List.find?_some known
              exact congrArg _ (lexemeToken_elsewhere _ (List.isPrefixOf_iff_prefix.mp starts)
                (Except.ok.inj read) other)
            case h_2 => cases read

theorem wordKind_opensTag (word : String) : (wordKind word).opensTag = false := by
  have kinds := wordKind_cases word
  simp only [List.mem_cons, List.not_mem_nil, or_false] at kinds
  obtain kind | kind | kind | kind := kinds <;> rw [kind] <;> rfl

theorem symbols_opensTag : ∀ symbol ∈ symbols, symbol.2.opensTag = false := by
  decide

theorem tagToken_opensTag {tag : TagEnd} {reader after : Reader} {token : Token}
    (read : tagToken tag reader = .ok (token, after)) : token.kind.opensTag = false := by
  unfold tagToken stringToken at read
  split at read
  · cases read
  split at read
  · split at read <;> cases read
    rfl
  split at read
  · cases read
    rfl
  split at read
  · cases read
    exact wordKind_opensTag _
  split at read
  case h_1 known =>
    cases read
    exact symbols_opensTag _ (List.mem_of_find?_eq_some known)
  case h_2 => cases read

/-- The tokens of a tag end with its closing delimiter, which a hyphen stands before if it trims. -/
theorem tagTokens_closes {tag : TagEnd} {budget : Nat} {reader after : Reader} {tokens : List Token}
    {trims : Bool} (read : tagTokens tag budget reader = .ok (tokens, trims, after)) :
    ∃ others passed, tokens = others ++ [⟨tag.kind, String.ofList tag.close, reader.mark.past passed⟩] ∧
      (∀ token ∈ others, token.kind.opensTag = false) ∧ reader.Passes (passed ++ tag.close) after ∧
      (trims = true → passed.getLast? = some '-') := by
  induction budget generalizing reader tokens with
  | zero => cases read
  | succ budget ih =>
      have blanks := reader.passes_skipBlanks
      simp only [tagTokens] at read
      generalize reader.skipBlanks = start at read blanks
      generalize reader.rest.takeWhile Text.isBlank = white at blanks
      obtain ⟨text, mark⟩ := start
      split at read
      · cases read
      split at read
      case isTrue starts =>
        obtain ⟨behind, rfl⟩ := List.isPrefixOf_iff_prefix.mp starts
        have hyphen : Reader.Passes ⟨'-' :: (tag.close ++ behind), mark⟩ ['-']
          ⟨tag.close ++ behind, mark.step '-'⟩ := ⟨rfl, rfl⟩
        have closing : Reader.Passes ⟨tag.close ++ behind, mark.step '-'⟩ tag.close
          ⟨behind, (mark.step '-').past tag.close⟩ := ⟨rfl, rfl⟩
        have marked := blanks.trans hyphen
        have token := lexemeToken_append tag.kind tag.close behind (mark.step '-')
        simp only [Reader.skip, List.cons_append, List.drop_succ_cons, List.drop_zero, List.take_succ_cons,
          List.take_zero, Mark.past, List.foldl] at read
        rw [token] at read
        cases read
        refine ⟨[], white ++ ['-'], ?_, by simp, marked.trans closing, by simp⟩
        rw [← marked.2]
        rfl
      split at read
      case isTrue starts =>
        obtain ⟨behind, rfl⟩ := List.isPrefixOf_iff_prefix.mp starts
        have closing : Reader.Passes ⟨tag.close ++ behind, mark⟩ tag.close
          ⟨behind, mark.past tag.close⟩ := ⟨rfl, rfl⟩
        rw [lexemeToken_append] at read
        cases read
        refine ⟨[], white, ?_, by simp, blanks.trans closing, by simp⟩
        rw [← blanks.2]
        rfl
      · obtain ⟨⟨token, next⟩, readToken, more⟩ := Outcome.bind_eq_ok.mp read
        obtain ⟨⟨others, ends⟩, readOthers, same⟩ := Outcome.bind_eq_ok.mp more
        cases same
        obtain ⟨others, passed, rfl, inside, passes, trimmed⟩ := ih readOthers
        obtain ⟨start, something, passesToken⟩ := tagToken_passes readToken
        have whole := blanks.trans passesToken
        refine ⟨token :: others, white ++ start ++ passed, ?_, ?_, ?_, ?_⟩
        · rw [past_append, ← whole.2]
          rfl
        · exact List.forall_mem_cons.mpr ⟨tagToken_opensTag readToken, inside⟩
        · rw [List.append_assoc]
          exact whole.trans passes
        · exact fun trims => by simp [trimmed trims]

theorem Reader.Passes.text_eq {passed : List Char}
    (passes : Reader.Passes ⟨text ++ rest, mark⟩ passed ⟨rest, place⟩) : text = passed :=
  List.append_cancel_right passes.1

theorem skipBlanks_closed {tag : TagEnd} (closes : tag.Closes text) (rest : List Char) (mark : Mark) :
    Reader.skipBlanks ⟨text ++ rest, mark⟩ =
      ⟨text.dropWhile Text.isBlank ++ rest, mark.past (text.takeWhile Text.isBlank)⟩ := by
  have ⟨white, visible, _⟩ := takeWhile_closed Text.isBlank rfl closes.brace rest
  have split := (Reader.mk (text ++ rest) mark).passes_skipBlanks
  simp only [white] at split
  have text : (Reader.skipBlanks ⟨text ++ rest, mark⟩).rest = text.dropWhile Text.isBlank ++ rest := by
    simp only [Reader.skipBlanks, Reader.skip, drop_takeWhile, visible]
  exact Reader.mk.injEq .. ▸ ⟨text, split.2⟩

/-- A tag is read up to its closing delimiter whatever stands behind that. -/
theorem tagTokens_elsewhere {tag : TagEnd} (usual : tag.IsUsual) {budget : Nat}
    {tokens : List Token} {trims : Bool}
    (read : tagTokens tag budget ⟨text ++ rest, mark⟩ = .ok (tokens, trims, ⟨rest, place⟩))
    (other : List Char) :
    tagTokens tag budget ⟨text ++ other, mark⟩ = .ok (tokens, trims, ⟨other, place⟩) := by
  induction budget generalizing text mark tokens with
  | zero => cases read
  | succ budget ih =>
      have closes : tag.Closes text := by
        obtain ⟨_, passed, _, _, passes, _⟩ := tagTokens_closes read
        have same := passes.text_eq
        exact ⟨usual, same ▸ List.suffix_append _ _⟩
      have ⟨hyphen, close⟩ := closes.afterBlanks.startsWith rest
      have ⟨hyphenOther, closeOther⟩ := closes.afterBlanks.startsWith other
      simp only [tagTokens, skipBlanks_closed closes, Reader.startsWith, hyphen, close, hyphenOther,
        closeOther] at read ⊢
      have closes := closes.afterBlanks
      generalize text.dropWhile Text.isBlank = text at read closes ⊢
      generalize mark.past _ = mark at read ⊢
      have something (rest : List Char) : ¬ (text ++ rest).isEmpty = true := by
        have shorter := closes.length.2
        simp [List.ne_nil_of_length_pos (by omega : 0 < text.length)]
      rw [if_neg (something _)] at read ⊢
      split at read
      case isTrue starts =>
        rw [if_pos starts]
        obtain ⟨behind, rfl⟩ := List.isPrefixOf_iff_prefix.mp starts
        simp only [Reader.skip, List.cons_append, List.drop_succ_cons, List.drop_zero,
          List.take_succ_cons, List.take_zero, Except.ok.injEq, Prod.mk.injEq] at read ⊢
        have token := lexemeToken_elsewhere [] (List.prefix_append _ _)
          (Prod.ext rfl read.2.2) other
        rw [token]
        exact ⟨read.1, read.2.1, rfl⟩
      case isFalse starts =>
        rw [if_neg starts]
        split at read
        case isTrue starts =>
          rw [if_pos starts]
          simp only [Except.ok.injEq, Prod.mk.injEq] at read ⊢
          have token := lexemeToken_elsewhere [] (List.isPrefixOf_iff_prefix.mp starts)
            (Prod.ext rfl read.2.2) other
          rw [token]
          exact ⟨read.1, read.2.1, rfl⟩
        case isFalse ends =>
          rw [if_neg ends]
          obtain ⟨⟨token, next⟩, readToken, more⟩ := Outcome.bind_eq_ok.mp read
          obtain ⟨⟨others, after⟩, readOthers, same⟩ := Outcome.bind_eq_ok.mp more
          cases same
          obtain ⟨_, passed, _, _, passes, _⟩ := tagTokens_closes readOthers
          obtain ⟨left, place⟩ := next
          obtain ⟨rfl, _⟩ := passes
          rw [tagToken_elsewhere closes readToken other, Outcome.ok_bind, ih readOthers]
          rfl

theorem skipMarker_anywhere (left : List Char) (something : left ≠ [])
    (skips : (Reader.skipMarker ⟨text, mark⟩).rest = left ++ rest) :
    ∃ marker, text = marker ++ (left ++ rest) ∧ ∀ other,
      Reader.skipMarker ⟨marker ++ (left ++ other), mark⟩ =
        ⟨left ++ other, (Reader.skipMarker ⟨text, mark⟩).mark⟩ := by
  unfold Reader.skipMarker at skips ⊢
  by_cases hyphen : startsWithMarker text = true
  · rw [if_pos hyphen] at skips ⊢
    obtain ⟨text, rfl⟩ := List.head?_eq_some_iff.mp (eq_of_beq hyphen)
    exact ⟨['-'], congrArg ('-' :: ·) skips, fun other => rfl⟩
  · rw [if_neg hyphen] at skips ⊢
    obtain ⟨c, left, rfl⟩ := List.exists_cons_of_ne_nil something
    subst skips
    exact ⟨[], rfl, fun other => if_neg hyphen⟩

/-- A delimiter that is found is found whatever stands behind it. -/
theorem before?_anywhere {delimiter inside : List Char} (nonempty : delimiter ≠ [])
    (found : before? delimiter text = some inside) :
    ∃ rest, text = inside ++ delimiter ++ rest ∧
      ∀ other, before? delimiter (inside ++ delimiter ++ other) = some inside := by
  induction text generalizing inside with
  | nil => cases found
  | cons c text ih =>
      rw [before?] at found
      split at found
      case isTrue starts =>
        cases found
        obtain ⟨rest, same⟩ := List.isPrefixOf_iff_prefix.mp starts
        exact ⟨rest, same.symm, before?_at nonempty⟩
      case isFalse ahead =>
        obtain ⟨inside, inner, rfl⟩ := Option.map_eq_some_iff.mp found
        obtain ⟨rest, rfl, finds⟩ := ih inner
        refine ⟨rest, rfl, fun other => ?_⟩
        have same (rest : List Char) : delimiter.isPrefixOf (c :: (inside ++ delimiter) ++ rest) =
            delimiter.isPrefixOf (c :: (inside ++ delimiter)) :=
          isPrefixOf_append (by simp; omega) rest
        simp only [List.cons_append] at same ⊢
        rw [same] at ahead
        rw [before?, same, if_neg ahead, finds]
        rfl

theorem skip_commentOpen (text : List Char) (mark : Mark) :
    Reader.skip ⟨['\x7b', '#'] ++ text, mark⟩ (Delimiters.commentOpen {}).length =
      ⟨text, mark.past ['\x7b', '#']⟩ :=
  skip_append ['\x7b', '#'] text mark

theorem skip_commentClose (inside rest : List Char) (mark : Mark) :
    Reader.skip ⟨inside ++ ['#', '\x7d'] ++ rest, mark⟩
        (inside.length + (Delimiters.commentClose {}).length) =
      ⟨rest, mark.past (inside ++ ['#', '\x7d'])⟩ := by
  have size : inside.length + (Delimiters.commentClose {}).length = (inside ++ ['#', '\x7d']).length := by
    rw [List.length_append]
    rfl
  rw [size, skip_append]

/-- A comment is read up to its closing delimiter, whatever stands behind that. -/
theorem skipComment_anywhere {trims : Bool} {after : Reader}
    (read : skipComment {} ⟨['\x7b', '#'] ++ text, mark⟩ = .ok (trims, after)) :
    ∃ passed, text = passed ++ '\x7d' :: after.rest ∧ ∀ other,
      skipComment {} ⟨['\x7b', '#'] ++ (passed ++ '\x7d' :: other), mark⟩ =
        .ok (trims, ⟨other, after.mark⟩) := by
  have opened (text : List Char) := skip_commentOpen text mark
  simp only [skipComment, opened] at read ⊢
  split at read
  · cases read
  case h_2 inside found =>
    obtain ⟨rest, same, finds⟩ := before?_anywhere (by decide) found
    obtain ⟨marker, rfl, skips⟩ := skipMarker_anywhere (inside ++ ['#', '\x7d']) (by simp) same
    rw [skips, skip_commentClose] at read
    cases read
    refine ⟨marker ++ (inside ++ ['#']), by simp, fun other => ?_⟩
    have finds : before? (Delimiters.commentClose {}).toList (inside ++ ['#', '\x7d'] ++ other) =
      some inside := finds other
    have spelled : marker ++ (inside ++ ['#']) ++ '\x7d' :: other =
      marker ++ (inside ++ ['#', '\x7d'] ++ other) := by simp
    rw [spelled, skips]
    simp only [finds, skip_commentClose inside other]

theorem tag_anywhere {openKind closeKind : TokenKind} {opener close : List Char} {budget : Nat}
    {tokens : List Token} {trims : Bool} {after : Reader} (usual : TagEnd.IsUsual ⟨close, closeKind, mark⟩)
    (read : tag openKind closeKind opener close budget ⟨opener ++ text, mark⟩ =
      .ok (tokens, trims, after)) :
    ∃ passed, text = passed ++ (close ++ after.rest) ∧ ∀ other,
      tag openKind closeKind opener close budget ⟨opener ++ (passed ++ (close ++ other)), mark⟩ =
        .ok (tokens, trims, ⟨other, after.mark⟩) := by
  simp only [tag, lexemeToken_append] at read ⊢
  obtain ⟨⟨others, ends⟩, inner, same⟩ := Outcome.bind_eq_ok.mp read
  cases same
  obtain ⟨_, inside, _, _, ⟨split, _⟩, _⟩ := tagTokens_closes inner
  have something : inside ++ close ≠ [] := by
    obtain same | same := usual <;> simp [show close = _ from same]
  obtain ⟨marker, rfl, skips⟩ := skipMarker_anywhere (inside ++ close) something split
  refine ⟨marker ++ inside, by simp, fun other => ?_⟩
  have spelled : marker ++ inside ++ (close ++ other) = marker ++ (inside ++ close ++ other) := by simp
  rw [skips] at inner
  rw [spelled, skips, tagTokens_elsewhere usual inner other]
  rfl

/-- A tag or comment is read up to its closing delimiter, whatever stands behind that. -/
theorem tagOrComment_anywhere {opener : List Char} {budget : Nat} {tokens : List Token} {trims : Bool}
    {after : Reader} (read : tagOrComment {} opener budget ⟨opener ++ text, mark⟩ =
      .ok (tokens, trims, after)) :
    ∃ passed, text = passed ++ '\x7d' :: after.rest ∧ ∀ other,
      tagOrComment {} opener budget ⟨opener ++ (passed ++ '\x7d' :: other), mark⟩ =
        .ok (tokens, trims, ⟨other, after.mark⟩) := by
  unfold tagOrComment at read ⊢
  by_cases comment : opener = (Delimiters.commentOpen {}).toList
  · subst comment
    simp only [if_true] at read ⊢
    obtain ⟨⟨trims, after⟩, skipped, same⟩ := Outcome.map_eq_ok.mp read
    cases same
    obtain ⟨passed, rfl, reads⟩ := skipComment_anywhere skipped
    exact ⟨passed, rfl, fun other => congrArg _ (reads other)⟩
  · simp only [if_neg comment] at read ⊢
    by_cases expression : opener = (Delimiters.expressionOpen {}).toList
    · simp only [if_pos expression] at read ⊢
      obtain ⟨passed, rfl, reads⟩ := tag_anywhere (.inl rfl) read
      exact ⟨passed ++ ['\x7d'], by simp, fun other => by simpa using reads other⟩
    · simp only [if_neg expression] at read ⊢
      obtain ⟨passed, rfl, reads⟩ := tag_anywhere (.inr rfl) read
      exact ⟨passed ++ ['%'], by simp, fun other => by simpa using reads other⟩

end Templating.Lexer
