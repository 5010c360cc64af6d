import Templating.Proofs.Canonical.Escaping
import Templating.Proofs.Lexer.Inside

/-!
Text, tags and comments in order, without their places. A text is read together with the opener
behind it, so what a part of a template reads as is told by what is read when it stands before the
rest.
-/

namespace Templating.Lexer

def openersOf (delimiters : Delimiters) : List (List Char) :=
  delimiters.openers.map String.toList

/-- All tokens, read with as many turns as there are characters. -/
def scan (delimiters : Delimiters) (trims : Bool) (reader : Reader) : Except Stop (List Token) :=
  tokensFrom delimiters (openersOf delimiters) reader.rest.length trims reader

theorem tokensFrom_eq_scan {delimiters : Delimiters} (apart : OpenersApart (openersOf delimiters))
    {budget : Nat} {trims : Bool} {reader : Reader} (enough : reader.rest.length ≤ budget) :
    tokensFrom delimiters (openersOf delimiters) budget trims reader =
      scan delimiters trims reader :=
  tokensFrom_budget apart.nonempty enough (Nat.le_refl _)

/-- The text token of a run, if the run is not empty. -/
def runTokens (run : List Char) (mark : Mark) : List Token :=
  if run.isEmpty then [] else [⟨.text, String.ofList run, mark⟩]

/-- The lexeme of a run, if the run is not empty. -/
def runLexemes (run : List Char) : List Lexeme :=
  if run.isEmpty then [] else [(.text, String.ofList run)]

theorem runTokens_lexemes (run : List Char) (mark : Mark) :
    (runTokens run mark).map Token.lexeme = runLexemes run := by
  unfold runTokens runLexemes
  split <;> rfl

theorem textRun_at_opener {openers : List (List Char)} (apart : OpenersApart openers)
    {opener rest : List Char} {mark : Mark} (member : opener ∈ openers) :
    textRun openers 0 0 mark (opener ++ rest) = ([], ⟨opener ++ rest, mark⟩) := by
  simpa using textRun_evenSlashes apart member 0 mark rest

/-- A text up to an opener gives its token, and reading goes on at the opener. -/
theorem scan_text {delimiters : Delimiters} (apart : OpenersApart (openersOf delimiters))
    {text run opener rest : List Char} {mark mark' : Mark} (member : opener ∈ openersOf delimiters)
    (read : textRun (openersOf delimiters) 0 0 mark text = (run, ⟨opener ++ rest, mark'⟩)) :
    scan delimiters false ⟨text, mark⟩ =
      (scan delimiters false ⟨opener ++ rest, mark'⟩).map
        (runTokens (trimmedRun (openersOf delimiters) run (opener ++ rest)) mark ++ ·) := by
  obtain ⟨passed, passes⟩ := textRun_passes (openersOf delimiters) 0 0 mark text
  rw [read] at passes
  have shorter : passed.length + (opener ++ rest).length = text.length := passes.length
  have nonempty : opener ≠ [] := fun empty => apart.nonempty (empty ▸ member)
  have positive := List.length_pos_iff.mpr nonempty
  rw [List.length_append] at shorter
  obtain ⟨budget, enough⟩ : ∃ budget, text.length = budget + 1 :=
    ⟨text.length - 1, by omega⟩
  have found : opener? (openersOf delimiters) (opener ++ rest) = some opener :=
    apart.opener?_eq_some.mpr ⟨member, List.prefix_append _ _⟩
  have wide : scan delimiters false ⟨opener ++ rest, mark'⟩ =
      tokensFrom delimiters (openersOf delimiters) (budget + 1) false ⟨opener ++ rest, mark'⟩ :=
    (tokensFrom_eq_scan apart (by rw [List.length_append]; omega)).symm
  rw [wide]
  simp only [scan, enough, tokensFrom, textToken, Reader.textStart, Bool.false_eq_true, if_false,
    read, textRun_at_opener apart member, found, Outcome.bind_map]
  simp [runTokens, trimmedRun, found, Text.trimEnd]
  rfl

/-- Reading at an opener gives the tokens of its tag or comment and goes on behind that. -/
theorem scan_tag {delimiters : Delimiters} (apart : OpenersApart (openersOf delimiters))
    {opener rest : List Char} {mark : Mark} {tokens : List Token} {trims : Bool} {after : Reader}
    (member : opener ∈ openersOf delimiters)
    (read : tagOrComment delimiters opener (opener ++ rest).length ⟨opener ++ rest, mark⟩ =
      .ok (tokens, trims, after)) :
    scan delimiters false ⟨opener ++ rest, mark⟩ =
      (scan delimiters trims after).map (tokens ++ ·) := by
  have nonempty : opener ≠ [] := fun empty => apart.nonempty (empty ▸ member)
  have positive := List.length_pos_iff.mpr nonempty
  obtain ⟨budget, enough⟩ : ∃ budget, (opener ++ rest).length = budget + 1 :=
    ⟨(opener ++ rest).length - 1, by rw [List.length_append]; omega⟩
  have starts : opener <+: opener ++ rest := List.prefix_append _ _
  have found : opener? (openersOf delimiters) (opener ++ rest) = some opener :=
    apart.opener?_eq_some.mpr ⟨member, starts⟩
  obtain ⟨passed, passes⟩ := tagOrComment_passes starts read
  have shorter : (opener ++ passed).length + after.rest.length = (opener ++ rest).length :=
    passes.length
  have less : after.rest.length ≤ budget := by
    rw [List.length_append] at shorter
    omega
  have sameTag : tagOrComment delimiters opener budget ⟨opener ++ rest, mark⟩ =
      .ok (tokens, trims, after) := by
    rw [← read]
    exact tagOrComment_budget nonempty starts (by simp only; omega) (Nat.le_succ _)
  have onwards : tokensFrom delimiters (openersOf delimiters) budget trims after =
      scan delimiters trims after :=
    tokensFrom_eq_scan apart less
  simp only [scan, enough, tokensFrom, textToken, Reader.textStart, Bool.false_eq_true, if_false,
    textRun_at_opener apart member, found, sameTag, Outcome.ok_bind, trimmedRun]
  simp only [scan] at onwards
  rw [onwards]
  simp [Text.trimEnd]
  rfl

/-- Reading the text leaves these lexemes and goes on with the rest. -/
def Emits (delimiters : Delimiters) (text rest : List Char) (lexemes : List Lexeme) : Prop :=
  ∀ mark, ∃ tokens mark', tokens.map Token.lexeme = lexemes ∧
    scan delimiters false ⟨text ++ rest, mark⟩ =
      (scan delimiters false ⟨rest, mark'⟩).map (tokens ++ ·)

namespace Emits

variable {delimiters : Delimiters} {text more rest : List Char} {lexemes others : List Lexeme}

theorem nil : Emits delimiters [] rest [] := by
  intro mark
  refine ⟨[], mark, rfl, ?_⟩
  rw [List.nil_append]
  cases scan delimiters false ⟨rest, mark⟩ <;> rfl

theorem append (first : Emits delimiters text (more ++ rest) lexemes)
    (second : Emits delimiters more rest others) :
    Emits delimiters (text ++ more) rest (lexemes ++ others) := by
  intro mark
  obtain ⟨tokens, between, same, reads⟩ := first mark
  obtain ⟨further, after, sameFurther, readsFurther⟩ := second between
  refine ⟨tokens ++ further, after, by rw [List.map_append, same, sameFurther], ?_⟩
  rw [List.append_assoc, reads, readsFurther, Outcome.map_map]
  simp only [List.append_assoc]

/-- A text that is read to the end leaves its lexemes and the end of input. -/
theorem scan_eq (emits : Emits delimiters text [] lexemes)
    (apart : OpenersApart (openersOf delimiters)) (mark : Mark) :
    ∃ tokens mark', tokens.map Token.lexeme = lexemes ∧
      scan delimiters false ⟨text, mark⟩ = .ok (tokens ++ [⟨.endOfInput, "", mark'⟩]) := by
  obtain ⟨tokens, after, same, reads⟩ := emits mark
  refine ⟨tokens, after, same, ?_⟩
  rw [List.append_nil] at reads
  rw [reads, scan, tokensFrom_nil apart.nonempty _ _ rfl]
  rfl

end Emits

/-- A tag or comment that reads as these lexemes without trimming. -/
theorem Emits.tagOrComment {delimiters : Delimiters} {opener inside rest : List Char}
    {lexemes : List Lexeme} (apart : OpenersApart (openersOf delimiters))
    (member : opener ∈ openersOf delimiters)
    (read : ∀ mark, ∃ tokens mark', tokens.map Token.lexeme = lexemes ∧
      Lexer.tagOrComment delimiters opener (opener ++ (inside ++ rest)).length
        ⟨opener ++ (inside ++ rest), mark⟩ = .ok (tokens, false, ⟨rest, mark'⟩)) :
    Emits delimiters (opener ++ inside) rest lexemes := by
  intro mark
  obtain ⟨tokens, after, same, reads⟩ := read mark
  refine ⟨tokens, after, same, ?_⟩
  rw [List.append_assoc]
  exact scan_tag apart member reads

/-- A text that nothing follows gives its token and the end of input. -/
theorem scan_textEnd {delimiters : Delimiters} (apart : OpenersApart (openersOf delimiters))
    {text run : List Char} {mark after : Mark}
    (read : textRun (openersOf delimiters) 0 0 mark text = (run, ⟨[], after⟩)) :
    scan delimiters false ⟨text, mark⟩ =
      .ok (runTokens run mark ++ [⟨.endOfInput, "", after⟩]) := by
  cases text with
  | nil =>
      cases read
      rfl
  | cons c text =>
      have ends : opener? (openersOf delimiters) [] = none := opener?_nil apart.nonempty
      simp [scan, tokensFrom, textToken, Reader.textStart, read, trimmedRun, ends, runTokens]

/-- A text that nothing follows reads as its run. -/
theorem Emits.textEnd {delimiters : Delimiters} (apart : OpenersApart (openersOf delimiters))
    {text run : List Char}
    (read : ∀ mark, ∃ mark', textRun (openersOf delimiters) 0 0 mark text =
      (run, ⟨[], mark'⟩)) :
    Emits delimiters text [] (runLexemes run) := by
  intro mark
  obtain ⟨after, reads⟩ := read mark
  refine ⟨_, after, runTokens_lexemes run mark, ?_⟩
  rw [List.append_nil, scan_textEnd apart reads, scan, tokensFrom_nil apart.nonempty _ _ rfl]
  rfl

theorem skip_append (text rest : List Char) (mark : Mark) :
    Reader.skip ⟨text ++ rest, mark⟩ text.length = ⟨rest, mark.past text⟩ := by
  simp [Reader.skip]

theorem before?_at {delimiter : List Char} (nonempty : delimiter ≠ []) (rest : List Char) :
    before? delimiter (delimiter ++ rest) = some [] := by
  cases delimiter with
  | nil => exact absurd rfl nonempty
  | cons c others => simp [before?]

/-- An empty comment that trims the text before it. -/
theorem skipComment_seam {delimiters : Delimiters} {c : Char} {close : List Char}
    (closes : delimiters.commentClose.toList = c :: close) (visible : Text.isBlank c = false)
    (mark : Mark) (rest : List Char) :
    ∃ mark', skipComment delimiters ⟨delimiters.commentOpen.toList ++
        ('-' :: ' ' :: delimiters.commentClose.toList ++ rest), mark⟩ =
      .ok (false, ⟨rest, mark'⟩) := by
  have different : c ≠ ' ' := by
    rintro rfl
    cases visible
  have inside : before? (c :: close) (' ' :: (c :: close ++ rest)) = some [' '] := by
    rw [before?, before?_at (List.cons_ne_nil _ _)]
    simp [different]
  have size : delimiters.commentClose.length = close.length + 1 := by
    rw [← String.length_toList, closes, List.length_cons]
  have opened : Reader.skip ⟨delimiters.commentOpen.toList ++
        ('-' :: ' ' :: delimiters.commentClose.toList ++ rest), mark⟩
        delimiters.commentOpen.length =
      ⟨'-' :: ' ' :: (c :: close ++ rest), mark.past delimiters.commentOpen.toList⟩ := by
    rw [← String.length_toList, skip_append, closes]
    rfl
  have closed : ∀ mark, Reader.skip ⟨' ' :: (c :: close ++ rest), mark⟩
        ([' '].length + delimiters.commentClose.length) =
      ⟨rest, mark.past (' ' :: c :: close)⟩ := by
    intro mark
    rw [size]
    simpa [Nat.add_comm] using skip_append (' ' :: c :: close) rest mark
  refine ⟨(mark.past delimiters.commentOpen.toList |>.past ['-']).past (' ' :: c :: close), ?_⟩
  rw [skipComment, opened, closes]
  simp only [Reader.skipMarker, startsWithMarker, List.head?_cons, BEq.rfl, if_true, Reader.skip,
    List.drop_succ_cons, List.drop_zero, inside]
  exact congrArg (fun reader => Except.ok (false, reader)) (closed _)

/-- A tag whose text between two blanks reads as these lexemes. -/
theorem tag_reads {openKind closeKind : TokenKind} {c : Char}
    {opener close inside rest : List Char} {lexemes : List Lexeme}
    (visible : Text.isBlank c = false) (plain : c ≠ '-')
    (reads : ∀ start, ReadsAs ⟨c :: close, closeKind, start⟩ inside
      (' ' :: c :: close ++ rest) lexemes) (budget : Nat)
    (enough : (' ' :: inside ++ ' ' :: c :: close ++ rest).length ≤ budget) (mark : Mark) :
    ∃ tokens mark', tokens.map Token.lexeme =
        (openKind, String.ofList opener) :: lexemes ++ [(closeKind, String.ofList (c :: close))] ∧
      tag openKind closeKind opener (c :: close) budget
        ⟨opener ++ (' ' :: inside ++ ' ' :: c :: close ++ rest), mark⟩ =
          .ok (tokens, false, ⟨rest, mark'⟩) := by
  let ends : TagEnd := ⟨c :: close, closeKind, mark⟩
  have spaced : ReadsAs ends ([' '] ++ (inside ++ [' '])) (c :: close ++ rest) lexemes := by
    simpa using ReadsAs.blank.append ((by simpa using reads mark :
      ReadsAs ends inside ([' '] ++ (c :: close ++ rest)) lexemes).append ReadsAs.blank)
  obtain ⟨tokens, between, same, read⟩ := spaced (mark.past opener)
  have closes : ends.close = c :: close := rfl
  obtain ⟨after, closed⟩ := tagRest_close closes visible plain rest between
  refine ⟨⟨openKind, String.ofList opener, mark⟩ :: (tokens ++
    [⟨closeKind, String.ofList (c :: close), between⟩]), after, ?_, ?_⟩
  · simp [Token.lexeme, ← same]
  · have whole : tagRest ends ⟨' ' :: inside ++ ' ' :: c :: close ++ rest, mark.past opener⟩ =
        .ok (tokens ++ [⟨closeKind, String.ofList (c :: close), between⟩], false,
          ⟨rest, after⟩) := by
      rw [closed, Outcome.map_ok] at read
      simpa [ends] using read
    have noMarker : Reader.skipMarker ⟨' ' :: inside ++ ' ' :: c :: close ++ rest,
        mark.past opener⟩ = ⟨' ' :: inside ++ ' ' :: c :: close ++ rest, mark.past opener⟩ := by
      simp [Reader.skipMarker, startsWithMarker]
    rw [tag, lexemeToken_append]
    dsimp only
    rw [noMarker, tagTokens_eq_tagRest enough, whole]
    rfl

end Templating.Lexer
