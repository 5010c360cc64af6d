import Mathlib
import Templating.Proofs.Lexer.Spans

/-!
Tokens lie in the source in order: every token stands where its mark says, and a tag is nothing but
its tokens and the gaps between them.
-/

namespace Templating

open Lexer

namespace Delimiters

theorem Accepted.nonempty {delimiters : Delimiters} (accepted : delimiters.Accepted) :
    ∀ delimiter ∈ delimiters.all, delimiter.toList ≠ [] := by
  intro delimiter member empty
  unfold Accepted fault? at accepted
  split at accepted
  · cases accepted
  · rename_i edges
    refine edges (List.any_eq_true.mpr ⟨delimiter, member, ?_⟩)
    rw [isBlankEdged, String.toList_eq_nil_iff.mp empty]
    rfl

/-- The usual delimiters are accepted. -/
theorem accepted_usual : Accepted {} := by
  have edges : ¬ (all {}).any isBlankEdged := by decide +kernel
  have reserved : ¬ (all {}).any isReserved := by
    simp [all, isReserved, String.contains_char_eq]
  rw [Accepted, fault?, if_neg edges, if_neg reserved]
  decide +kernel

end Delimiters

namespace Lexer

variable {source : List Char} {i j k : Nat}

/-- Spans from here to there, the last of which does not leave a tag open. -/
structure Stretch (source : List Char) (i : Nat) (spans : List Span) (j : Nat) : Prop where
  layout : Layout source i spans j
  order : i ≤ j
  ended : ∀ last ∈ spans.getLast?, last.token.kind.insideTag = false

theorem Stretch.nil (order : i ≤ j) : Stretch source i [] j :=
  ⟨.nil, order, fun _ lastly => by cases lastly⟩

theorem Stretch.append {left right : List Span} (first : Stretch source i left j)
    (second : Stretch source j right k) : Stretch source i (left ++ right) k where
  layout := first.layout.append second.layout first.order second.order
    fun last lastly _ _ inside => by
      rw [first.ended last lastly] at inside
      cases inside
  order := Nat.le_trans first.order second.order
  ended := by
    intro last lastly
    rw [List.getLast?_append, Option.mem_def, Option.or_eq_some_iff] at lastly
    obtain lastly | ⟨_, lastly⟩ := lastly
    · exact second.ended last lastly
    · exact first.ended last lastly

theorem passes_skipMarker (reader : Reader) :
    ∃ marker, (marker = [] ∨ marker = ['-']) ∧ reader.Passes marker reader.skipMarker := by
  unfold Reader.skipMarker
  split
  case isTrue marked =>
    have head : reader.rest.head? = some '-' := by simpa [startsWithMarker] using marked
    refine ⟨['-'], .inr rfl, Reader.passes_of_isPrefix ⟨reader.rest.tail, ?_⟩⟩
    exact List.cons_head?_tail head
  case isFalse => exact ⟨[], .inl rfl, reader.passes_nil⟩

theorem opensTag_ne_string {kind : TokenKind} (opens : kind.opensTag = true) :
    kind ≠ .string := by
  rintro rfl
  cases opens

theorem insideTag_of_closesTag {kind : TokenKind} (closes : kind.closesTag = true) :
    kind.insideTag = false := by
  cases kind <;> first | rfl | cases closes

theorem tag_stretch {openKind closeKind : TokenKind} (opens : openKind.opensTag = true)
    (closes : closeKind.closesTag = true) {opener close : List Char} (something : opener ≠ [])
    (nonempty : close ≠ []) {budget : Nat} {reader after : Reader} {tokens : List Token}
    {trims : Bool} (located : reader.At source i) (starts : opener <+: reader.rest)
    (read : tag openKind closeKind opener close budget reader = .ok (tokens, trims, after)) :
    ∃ spans j, spans.map (·.token) = tokens ∧ Stretch source i spans j ∧ after.At source j := by
  obtain ⟨⟨others, ends⟩, inner, same⟩ := Outcome.bind_eq_ok.mp read
  cases same
  have readOpener := readFrom_lexeme (opensTag_ne_string opens) something starts
  obtain ⟨fits, shorter, locatedOpen⟩ := readOpener.span located
  obtain ⟨marker, marked, passed⟩ := passes_skipMarker (reader.skip opener.length)
  obtain ⟨locatedInside, taken⟩ := locatedOpen.passes passed
  obtain ⟨spans, j, rfl, rest, locatedAfter⟩ := tagTokens_layout closes nonempty locatedInside inner
  refine ⟨⟨(lexemeToken openKind opener reader).1, i, i + opener.length⟩ :: spans, j, rfl,
    ⟨?_, by have order := rest.order; omega, ?_⟩, locatedAfter⟩
  · have opening : Layout source i [⟨(lexemeToken openKind opener reader).1, i, i + opener.length⟩]
        (i + opener.length + marker.length) :=
      .singleton fits shorter (Nat.le_refl i) (Nat.le_add_right _ _)
    refine opening.append rest.layout (by omega) rest.order fun last lastly next firstly _ => ?_
    rw [List.getLast?_singleton] at lastly
    cases lastly
    obtain ⟨first, head, order, gap⟩ := rest.first
    cases head.symm.trans firstly
    rw [← extract_append_extract (Nat.le_add_right _ _) order, taken]
    have opened : (lexemeToken openKind opener reader).1.kind.opensTag = true := opens
    rw [opened]
    exact gap.marked marked
  · intro last lastly
    obtain ⟨final, finally_, closing⟩ := rest.last
    rw [List.getLast?_cons, Option.mem_def.mp finally_] at lastly
    cases lastly
    exact insideTag_of_closesTag closing

theorem skipComment_at {delimiters : Delimiters} {reader after : Reader} {trims : Bool}
    (located : reader.At source i) (starts : delimiters.commentOpen.toList <+: reader.rest)
    (read : skipComment delimiters reader = .ok (trims, after)) :
    ∃ j, i ≤ j ∧ after.At source j := by
  obtain ⟨_, passed⟩ := skipComment_passes starts read
  exact ⟨_, Nat.le_add_right _ _, (located.passes passed).1⟩

theorem tagOrComment_stretch {delimiters : Delimiters} (accepted : delimiters.Accepted)
    {opener : List Char} {budget : Nat} {reader after : Reader} {tokens : List Token}
    {trims : Bool} (something : opener ≠ []) (located : reader.At source i)
    (starts : opener <+: reader.rest)
    (read : tagOrComment delimiters opener budget reader = .ok (tokens, trims, after)) :
    ∃ spans j, spans.map (·.token) = tokens ∧ Stretch source i spans j ∧ after.At source j := by
  unfold tagOrComment at read
  split at read
  case isTrue comment =>
    obtain ⟨_, skipped, same⟩ := Outcome.map_eq_ok.mp read
    cases same
    subst comment
    obtain ⟨j, order, locatedAfter⟩ := skipComment_at located starts skipped
    exact ⟨[], j, rfl, .nil order, locatedAfter⟩
  case isFalse =>
    split at read
    · exact tag_stretch rfl rfl something (accepted.nonempty _ (by simp [Delimiters.all])) located
        starts read
    · exact tag_stretch rfl rfl something (accepted.nonempty _ (by simp [Delimiters.all])) located
        starts read

/-- A run of text that is not empty takes at least one character. -/
theorem textRun_shorter (openers : List (List Char)) (literal : Nat) (mark : Mark)
    (text : List Char) (some : (textRun openers 0 literal mark text).1 ≠ []) :
    (textRun openers 0 literal mark text).2.rest.length < text.length := by
  cases text with
  | nil => exact absurd rfl some
  | cons c rest =>
      have onwards (slashes literal : Nat) :
          (textRun openers slashes literal (mark.step c) rest).2.rest.length < rest.length + 1 := by
        obtain ⟨_, passed⟩ := textRun_passes openers slashes literal (mark.step c) rest
        have lengths := passed.length
        dsimp only at lengths
        omega
      rw [textRun] at some ⊢
      by_cases inside : literal ≠ 0
      · rw [if_pos inside]
        exact onwards 0 (literal - 1)
      · rw [if_neg inside] at some ⊢
        by_cases slash : c = '\\'
        · rw [if_pos slash]
          exact onwards 1 0
        · rw [if_neg slash] at some ⊢
          revert some
          cases opener? openers (c :: rest) with
          | none => exact fun _ => onwards 0 0
          | some opener => exact fun some => absurd rfl some

/-- A run of text goes on to an opener or to the end. -/
theorem textRun_stops (openers : List (List Char)) (slashes literal : Nat) (mark : Mark)
    (text : List Char) :
    opener? openers (textRun openers slashes literal mark text).2.rest = none →
      (textRun openers slashes literal mark text).2.rest = [] := by
  fun_induction textRun openers slashes literal mark text with
  | case1 => exact fun _ => rfl
  | case2 slashes literal mark c rest inside ih => exact ih
  | case3 slashes literal mark rest outside ih => exact ih
  | case4 slashes literal mark c rest outside plain opener found odd ih => exact ih
  | case5 slashes literal mark c rest outside plain opener found even =>
      intro none
      rw [found] at none
      cases none
  | case6 slashes literal mark c rest outside plain found ih => exact ih

theorem trimmedRun_nil (openers : List (List Char)) (next : List Char) :
    trimmedRun openers [] next = [] := by
  unfold trimmedRun
  split
  · split <;> rfl
  · rfl

theorem textToken_stretch (openers : List (List Char)) (trims : Bool) {reader : Reader}
    (located : reader.At source i) :
    ∃ spans j, spans.map (·.token) = (textToken openers trims reader).1 ∧
      Stretch source i spans j ∧ (textToken openers trims reader).2.At source j := by
  obtain ⟨skipped, trimmed⟩ := reader.passes_textStart trims
  obtain ⟨locatedStart, _⟩ := located.passes trimmed
  obtain ⟨text, passed⟩ := textRun_passes openers 0 0 (reader.textStart trims).mark
    (reader.textStart trims).rest
  obtain ⟨locatedAfter, _⟩ := locatedStart.passes passed
  have lengths := passed.length
  have shorter := textRun_shorter openers 0 (reader.textStart trims).mark
    (reader.textStart trims).rest
  unfold textToken
  dsimp only at lengths ⊢
  generalize textRun openers 0 0 (reader.textStart trims).mark (reader.textStart trims).rest = run
    at lengths locatedAfter shorter ⊢
  obtain ⟨run, after⟩ := run
  dsimp only at lengths locatedAfter shorter ⊢
  by_cases empty : (trimmedRun openers run after.rest).isEmpty
  · rw [if_pos empty]
    exact ⟨[], _, rfl, .nil (by omega), locatedAfter⟩
  · rw [if_neg empty]
    have nonempty : run ≠ [] := by
      rintro rfl
      rw [trimmedRun_nil] at empty
      exact empty rfl
    have positive : 0 < text.length := by
      have shorter := shorter nonempty
      omega
    have fits : Span.Fits source ⟨⟨.text, String.ofList (trimmedRun openers run after.rest),
        (reader.textStart trims).mark⟩, i + skipped.length, i + skipped.length + text.length⟩ :=
      ⟨locatedStart.mark, trivial⟩
    have layout : Layout source i [_] (i + skipped.length + text.length) :=
      .singleton fits (Nat.lt_add_of_pos_right positive) (Nat.le_add_right _ _) (Nat.le_refl _)
    refine ⟨[_], _, rfl, ⟨layout, by omega, fun last lastly => ?_⟩, locatedAfter⟩
    cases lastly
    rfl

theorem textToken_stops (openers : List (List Char)) (trims : Bool) (reader : Reader)
    (none : opener? openers (textToken openers trims reader).2.rest = none) :
    (textToken openers trims reader).2.rest = [] :=
  textRun_stops openers 0 0 _ _ none

/-- All tokens are laid out up to the end of the source, where the end of input stands. -/
theorem tokensFrom_stretch {delimiters : Delimiters} (accepted : delimiters.Accepted)
    {openers : List (List Char)} (nonempty : [] ∉ openers) {budget : Nat} {trims : Bool}
    {reader : Reader} {tokens : List Token} (located : reader.At source i)
    (enough : reader.rest.length ≤ budget)
    (read : tokensFrom delimiters openers budget trims reader = .ok tokens) :
    ∃ spans, Stretch source i spans source.length ∧
      tokens = spans.map (·.token) ++ [⟨.endOfInput, "", .behind source⟩] := by
  have ending {j : Nat} {reader : Reader} (located : reader.At source j)
      (empty : reader.rest = []) : j = source.length ∧ reader.mark = .behind source := by
    have whole := located.eq_length empty
    refine ⟨whole, ?_⟩
    rw [located.mark, whole, List.take_length]
  induction budget generalizing i trims reader tokens with
  | zero =>
      cases read
      obtain ⟨rfl, mark⟩ := ending located (List.length_eq_zero_iff.mp (Nat.le_zero.mp enough))
      rw [mark]
      exact ⟨[], .nil (Nat.le_refl _), rfl⟩
  | succ budget ih =>
      obtain ⟨texts, j, sameTexts, stretch, locatedText⟩ := textToken_stretch openers trims located
      obtain ⟨_, passesText⟩ := textToken_passes openers trims reader
      have lengthsText := passesText.length
      simp only [tokensFrom] at read
      split at read
      case h_1 none =>
        cases read
        obtain ⟨rfl, mark⟩ := ending locatedText (textToken_stops openers trims reader none)
        rw [mark, ← sameTexts]
        exact ⟨texts, stretch, rfl⟩
      case h_2 opener found =>
        have starts := prefix_of_opener? found
        have something : opener ≠ [] := fun empty => nonempty (empty ▸ mem_of_opener? found)
        obtain ⟨⟨tagTokens, trimsNext, after⟩, readTag, rest⟩ := Outcome.bind_eq_ok.mp read
        obtain ⟨others, readOthers, same⟩ := Outcome.bind_eq_ok.mp rest
        cases same
        obtain ⟨_, passesTag⟩ := tagOrComment_passes starts readTag
        have lengthsTag := passesTag.length
        have positive := List.length_pos_iff.mpr something
        rw [List.length_append] at lengthsTag
        obtain ⟨tags, k, rfl, stretchTag, locatedTag⟩ :=
          tagOrComment_stretch accepted something locatedText starts readTag
        obtain ⟨spans, stretchOthers, rfl⟩ := ih locatedTag (by omega) readOthers
        refine ⟨texts ++ tags ++ spans, (stretch.append stretchTag).append stretchOthers, ?_⟩
        rw [← sameTexts, List.map_append, List.map_append]
        exact (List.append_assoc _ _ _).symm

/-- Each span starts behind the start of the one before it. -/
theorem Layout.increasing {spans : List Span} (layout : Layout source i spans j) :
    (spans.map (·.start)).Pairwise (· < ·) := by
  rw [← List.isChain_iff_pairwise, List.isChain_map]
  refine layout.chain.imp_of_mem_imp fun left right member _ follows => ?_
  have nonempty := layout.nonempty left member
  have order := follows.order
  omega

/-- The tokens of a source start at increasing places, the last one, the end of input, at its end.
Every token stands where its mark says and covers the stretch up to its stop, and in a tag there is
nothing between two tokens but a gap. -/
theorem tokenize_spans {delimiters : Delimiters} (accepted : delimiters.Accepted)
    {template source : String} {tokens : List Token}
    (read : tokenize delimiters template source = .ok tokens) :
    ∃ spans : List Span, spans.map (·.token) = tokens ∧
      (spans.map (·.start)).Pairwise (· < ·) ∧
      (∃ last ∈ spans.getLast?, last.token.kind = .endOfInput ∧ last.start = source.length) ∧
      (∀ span ∈ spans, span.token.mark = .behind (source.toList.take span.start) ∧
        Covers span.token (source.toList.extract span.start span.stop)) ∧
      spans.IsChain fun left right => left.stop ≤ right.start ∧
        (left.token.kind.insideTag = true →
          Gap left.token.kind.opensTag right.token.kind.closesTag
            (source.toList.extract left.stop right.start)) := by
  have nonempty : [] ∉ delimiters.openers.map String.toList := by
    intro member
    obtain ⟨opener, among, empty⟩ := List.mem_map.mp member
    refine accepted.nonempty opener ?_ empty
    simp only [Delimiters.openers, Delimiters.all, List.mem_cons, List.not_mem_nil, or_false]
      at among ⊢
    tauto
  have run : Lexer.tokens delimiters source = .ok tokens := by
    unfold tokenize at read
    split at read
    case h_1 others same =>
      cases read
      exact same
    case h_2 => cases read
  obtain ⟨spans, stretch, rfl⟩ :=
    tokensFrom_stretch accepted nonempty (.start source) (Nat.le_refl _) run
  have size : source.toList.length = source.length := String.length_toList
  refine ⟨spans ++ [⟨⟨.endOfInput, "", .behind source.toList⟩, source.length, source.length⟩],
    by simp, ?_, ⟨_, List.getLast?_concat, rfl, rfl⟩, ?_, ?_⟩
  · rw [List.map_append, List.pairwise_append]
    refine ⟨stretch.layout.increasing, List.pairwise_singleton _ _, fun start member final only => ?_⟩
    obtain ⟨span, among, rfl⟩ := List.mem_map.mp member
    cases List.mem_singleton.mp only
    have bounds := stretch.layout.within span among
    have positive := stretch.layout.nonempty span among
    exact Nat.lt_of_lt_of_le positive (size ▸ bounds.2)
  · refine List.forall_mem_append.mpr ⟨fun span member => ?_, List.forall_mem_singleton.mpr ⟨?_, ?_⟩⟩
    · exact ⟨(stretch.layout.fits span member).mark, (stretch.layout.fits span member).covers⟩
    · rw [← size, List.take_length]
    · refine covers_of_eq (fun same => by cases same) ?_
      simp
  · refine List.isChain_append.mpr ⟨?_, .singleton _, fun last lastly next firstly => ?_⟩
    · exact stretch.layout.chain.imp fun left right follows => ⟨follows.order, follows.gap⟩
    · cases firstly
      have bounds := stretch.layout.within last (List.mem_of_getLast? lastly)
      refine ⟨size ▸ bounds.2, fun inside => ?_⟩
      rw [stretch.ended last lastly] at inside
      cases inside

theorem tokenize_spans_greeting : ∃ tokens,
    tokenize {} "t" "\nHé \x7b\x7b- 'x\\n' | upper -\x7d\x7d !" = .ok tokens ∧
    tokens.map (·.mark) = [⟨1, 1, 0⟩, ⟨2, 4, 5⟩, ⟨2, 8, 9⟩, ⟨2, 14, 15⟩, ⟨2, 16, 17⟩, ⟨2, 23, 24⟩,
      ⟨2, 26, 27⟩, ⟨2, 27, 28⟩] ∧
    ∃ spans : List Span, spans.map (·.token) = tokens ∧
      (spans.map (·.start)).Pairwise (· < ·) := by
  have reads : ∃ tokens,
      tokenize {} "t" "\nHé \x7b\x7b- 'x\\n' | upper -\x7d\x7d !" = .ok tokens ∧
      tokens.map (·.mark) = [⟨1, 1, 0⟩, ⟨2, 4, 5⟩, ⟨2, 8, 9⟩, ⟨2, 14, 15⟩, ⟨2, 16, 17⟩,
        ⟨2, 23, 24⟩, ⟨2, 26, 27⟩, ⟨2, 27, 28⟩] :=
    ⟨_, by cbv, by cbv⟩
  obtain ⟨tokens, read, marks⟩ := reads
  obtain ⟨spans, same, increasing, _⟩ := tokenize_spans Delimiters.accepted_usual read
  exact ⟨tokens, read, marks, spans, same, increasing⟩

end Lexer

end Templating
