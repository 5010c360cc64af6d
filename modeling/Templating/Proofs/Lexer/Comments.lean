import Templating.Proofs.Grammar.EchoesBody
import Templating.Proofs.Lexer.Sound
import Templating.Proofs.Lexer.Turns

/-!
Comments are invisible. A comment in the middle of a text leaves the text in two pieces, which the
grammar joins again; before and behind it everything is read as it is without the comment.
-/

namespace Templating

namespace Text

theorem trimEnd_visible {c : Char} (visible : isBlank c = false) (before behind : List Char) :
    trimEnd (before ++ c :: behind) = before ++ c :: trimEnd behind := by
  have kept : (c :: before.reverse).dropWhile isBlank = c :: before.reverse :=
    List.dropWhile_cons_of_neg (by simp [visible])
  simp only [trimEnd, List.reverse_append, List.reverse_cons, List.append_assoc,
    List.singleton_append, List.dropWhile_append, kept]
  split
  case isTrue empty =>
    rw [List.isEmpty_iff] at empty
    simp [empty]
  case isFalse => simp

end Text

theorem Token.displace_lexemes (origin : Mark) (tokens : List Token) :
    (tokens.map (Token.displace origin)).map Token.lexeme = tokens.map Token.lexeme := by
  rw [List.map_map]
  rfl

/-- The two tokens of a text in two pieces, of which the second may be empty, echo the whole. -/
theorem Echoes.text {first : List Char} (something : first ≠ []) (second : List Char)
    (mark place between : Mark) {ones twos : List Token} (rest : Echoes ones twos) :
    Echoes (Lexer.runTokens (first ++ second) mark ++ ones)
      (Lexer.runTokens first place ++ (Lexer.runTokens second between ++ twos)) := by
  have whole : first ++ second ≠ [] := List.append_ne_nil_of_left_ne_nil something second
  simp only [Lexer.runTokens, List.isEmpty_iff, if_neg something, if_neg whole]
  by_cases empty : second = []
  · subst empty
    simp only [List.append_nil, if_true, List.nil_append, List.singleton_append]
    exact .token (by simp) rfl rest
  · simp only [if_neg empty, List.singleton_append]
    exact .seam rfl rfl rfl String.ofList_append rest

theorem Echoes.append {ones twos : List Token} (rest : Echoes ones twos) {before : List Token}
    (inside : ∀ token ∈ before, token.kind ≠ .endOfInput) :
    Echoes (before ++ ones) (before ++ twos) := by
  induction before with
  | nil => exact rest
  | cons token before ih =>
      obtain ⟨first, others⟩ := List.forall_mem_cons.mp inside
      exact .token first rfl (ih others)

theorem Echoes.of_lexemes {ones twos : List Token} {last : Token}
    (inside : ∀ token ∈ ones, token.kind ≠ .endOfInput) (ends : last.kind = .endOfInput)
    (same : (ones ++ [last]).map Token.lexeme = twos.map Token.lexeme) :
    Echoes (ones ++ [last]) twos := by
  induction ones generalizing twos with
  | nil =>
      obtain ⟨two, rest, rfl, first, others⟩ := List.map_eq_cons_iff.mp same.symm
      obtain rfl := List.map_eq_nil_iff.mp others
      exact .ends ends first.symm
  | cons one ones ih =>
      obtain ⟨outer, further⟩ := List.forall_mem_cons.mp inside
      obtain ⟨two, rest, rfl, first, others⟩ := List.map_eq_cons_iff.mp same.symm
      exact .token outer first.symm (ih further others.symm)

namespace Lexer

open Outcome (Alike)

variable {reader : Reader} {text run : List Char} {mark : Mark} {after : Reader}

theorem scan_textStart (trims : Bool) (reader : Reader) :
    scan {} trims reader = scan {} false (reader.textStart trims) := by
  have start : textToken (openersOf {}) trims reader =
      textToken (openersOf {}) false (reader.textStart trims) := rfl
  have enough : (reader.textStart trims).rest.length ≤ reader.rest.length + 1 := by
    obtain ⟨white, skips⟩ := reader.passes_textStart trims
    have lengths := skips.length
    omega
  rw [← tokensFrom_eq_scan apart_usual (Nat.le_succ reader.rest.length),
    ← tokensFrom_eq_scan apart_usual enough]
  simp only [tokensFrom, start]

/-- Trimming takes nothing before a character that is not blank. -/
theorem trimmedRun_visible {c : Char} (visible : Text.isBlank c = false)
    (before behind next : List Char) :
    trimmedRun (openersOf {}) (before ++ c :: behind) next =
      before ++ c :: trimmedRun (openersOf {}) behind next := by
  unfold trimmedRun
  split
  · split
    · exact Text.trimEnd_visible visible before behind
    · rfl
  · rfl

/-- A text gives its token, and reading goes on behind it. -/
theorem scan_run (read : textRun (openersOf {}) 0 0 mark text = (run, after)) :
    scan {} false ⟨text, mark⟩ = (scan {} false after).map
      (runTokens (trimmedRun (openersOf {}) run after.rest) mark ++ ·) := by
  cases found : opener? (openersOf {}) after.rest with
  | some opener =>
      obtain ⟨rest, place⟩ := after
      obtain ⟨next, rfl⟩ := prefix_of_opener? found
      exact scan_text apart_usual (mem_of_opener? found) read
  | none =>
      have stops := textRun_stops (openersOf {}) 0 0 mark text
      rw [read] at stops
      obtain ⟨rest, place⟩ := after
      obtain rfl : rest = [] := stops found
      simp only [trimmedRun, found]
      exact scan_textEnd apart_usual read

theorem before?_comment {inside : List Char} (plain : ¬ ['#', '\x7d'] <:+: inside)
    (rest : List Char) :
    before? ['#', '\x7d'] (inside ++ (['#', '\x7d'] ++ rest)) = some inside := by
  induction inside with
  | nil => exact before?_at (by simp) rest
  | cons c inside ih =>
      have later := ih fun within => plain (List.infix_cons within)
      have ahead : ¬ List.isPrefixOf ['#', '\x7d'] (c :: inside ++ (['#', '\x7d'] ++ rest)) := by
        rw [List.isPrefixOf_iff_prefix]
        intro starts
        cases inside with
        | nil => simp at starts
        | cons d inside =>
            simp only [List.cons_append, List.cons_prefix_cons, List.nil_prefix, and_true] at starts
            obtain ⟨rfl, rfl⟩ := starts
            exact plain (List.prefix_append _ inside).isInfix
      rw [List.cons_append] at ahead ⊢
      rw [before?, if_neg ahead, later]
      rfl

theorem not_startsWithMarker {inside : List Char} (first : inside.head? ≠ some '-')
    (rest : List Char) :
    startsWithMarker (inside ++ (['#', '\x7d'] ++ rest)) = false := by
  cases inside with
  | nil => rfl
  | cons c inside => simpa [startsWithMarker] using first

/-- A comment leaves nothing, and does not trim. -/
theorem scan_comment {inside : List Char} (plain : ¬ ['#', '\x7d'] <:+: inside)
    (first : inside.head? ≠ some '-') (last : inside.getLast? ≠ some '-') (rest : List Char)
    (mark : Mark) : ∃ place,
      scan {} false ⟨['\x7b', '#'] ++ (inside ++ (['#', '\x7d'] ++ rest)), mark⟩ =
        scan {} false ⟨rest, place⟩ := by
  have member : ['\x7b', '#'] ∈ openersOf {} := by simp [openersOf_usual]
  have skipped : ∃ place, skipComment {}
      ⟨['\x7b', '#'] ++ (inside ++ (['#', '\x7d'] ++ rest)), mark⟩ = .ok (false, ⟨rest, place⟩) := by
    have unmarked := not_startsWithMarker first rest
    have untrimmed : (inside.getLast? == some '-') = false := by simpa using last
    have found : before? (Delimiters.commentClose {}).toList (inside ++ (['#', '\x7d'] ++ rest)) =
      some inside := before?_comment plain rest
    have opened := skip_commentOpen (inside ++ (['#', '\x7d'] ++ rest)) mark
    simp only [skipComment, opened, Reader.skipMarker, unmarked, Bool.false_eq_true,
      if_false, found, untrimmed]
    rw [← List.append_assoc, skip_commentClose]
    exact ⟨_, rfl⟩
  obtain ⟨place, skipped⟩ := skipped
  refine ⟨place, ?_⟩
  have read : tagOrComment {} ['\x7b', '#']
      (['\x7b', '#'] ++ (inside ++ (['#', '\x7d'] ++ rest))).length
      ⟨['\x7b', '#'] ++ (inside ++ (['#', '\x7d'] ++ rest)), mark⟩ = .ok ([], false, ⟨rest, place⟩) :=
    congrArg (Except.map fun after => ([], after)) skipped
  rw [scan_tag apart_usual member read]
  cases scan {} false ⟨rest, place⟩ <;> rfl

theorem ComesTo.inner {trims onwards : Bool} {tokens : List Token}
    (comes : ComesTo trims reader tokens onwards after) : ∀ token ∈ tokens, token.Inner := by
  induction comes with
  | none => exact List.forall_mem_nil _
  | @turn _ _ between _ before _ _ turn ih =>
      refine List.forall_mem_append.mpr ⟨ih, ?_⟩
      obtain @⟨opener, texts, tags, start, after, onwards, text, found, tag⟩ := turn
      have inner := textToken_inner (openersOf {}) between before
      rw [text] at inner
      exact List.forall_mem_append.mpr ⟨inner, tagOrComment_inner tag⟩

/-- When the source is read with the rest behind it, the text of some turn starts before the last
character of the source and goes on to the rest at least. -/
def TakenAsText (source rest : List Char) : Prop :=
  ∃ tokens trims reader, ComesTo false ⟨source ++ rest, {}⟩ tokens trims reader ∧
    rest.length < reader.rest.length ∧
      (textToken (openersOf {}) trims reader).2.rest.length ≤ rest.length

/-- A character that is taken as text is taken so whatever stands behind it. -/
theorem TakenAsText.anyRest {front rest : List Char} {c : Char}
    (taken : TakenAsText (front ++ [c]) rest) (visible : Text.isBlank c = false) (slash : c ≠ '\\')
    (brace : c ≠ '\x7b') :
    ∃ tokens run left mark, (∀ token ∈ tokens, token.Inner) ∧ ∀ other,
      scan {} false ⟨front ++ c :: other, {}⟩ =
          (scan {} false ⟨left ++ c :: other, mark⟩).map (tokens ++ ·) ∧
        textRun (openersOf {}) 0 0 mark (left ++ c :: other) =
          precede (run ++ [c]) (textRun (openersOf {}) 0 0 (mark.past (left ++ [c])) other) := by
  obtain ⟨tokens, trims, reader, comes, longer, reached⟩ := taken
  have inner := comes.inner
  obtain ⟨passed, passes, elsewhere⟩ := comes.anywhere
  have whole : front ++ c :: rest = passed ++ reader.rest := by simpa using passes.1
  obtain ⟨inside, rfl⟩ : passed <+: front := by
    refine List.prefix_of_prefix_length_le ⟨_, whole.symm⟩ (List.prefix_append _ _) ?_
    have lengths := congrArg List.length whole
    simp only [List.length_append, List.length_cons] at lengths
    omega
  obtain ⟨behind, mark⟩ := reader
  obtain rfl : inside ++ c :: rest = behind := by simpa using whole
  obtain ⟨white, left, rfl, starts⟩ := textStart_visible visible trims inside mark
  obtain ⟨run, stopped, place, reads⟩ | ⟨run, reads⟩ :=
    textRun_runsTo brace slash left 0 (Nat.zero_le 1) (mark.past white)
  · rw [textToken_eq (by rw [starts, reads])] at reached
    simp at reached
    omega
  · refine ⟨tokens, run, left, mark.past white, inner, fun other => ⟨?_, reads other⟩⟩
    have comes := (elsewhere (white ++ left ++ c :: other)).scan_eq
    dsimp only at comes
    rw [scan_textStart trims, starts, ← List.append_assoc] at comes
    exact comes

/-- A text reads alike at two places. -/
theorem scan_places (rest : List Char) (first second : Mark) :
    ∃ run one two, textRun (openersOf {}) 0 0 first rest = (run, one) ∧
      textRun (openersOf {}) 0 0 second rest = (run, two) ∧ one.rest = two.rest ∧
      Alike (fun _ _ => True) Echoes (scan {} false one) (scan {} false two) := by
  have displaced (origin : Mark) :=
    textRun_displaced (openersOf {}) 0 0 rest (Mark.displaced_start origin)
  obtain ⟨sameFirst, one⟩ := displaced first
  obtain ⟨sameSecond, two⟩ := displaced second
  refine ⟨(textRun (openersOf {}) 0 0 {} rest).1, (textRun (openersOf {}) 0 0 first rest).2,
    (textRun (openersOf {}) 0 0 second rest).2, Prod.ext sameFirst rfl, Prod.ext sameSecond rfl,
    one.rest.trans two.rest.symm, ?_⟩
  have alike := (Canonical.scan_alike {} false one).meet (Canonical.scan_alike {} false two)
  refine alike.known.mono fun ones twos both => ?_
  obtain ⟨⟨tokens, same, again⟩, read⟩ := both
  obtain ⟨before, mark, rfl, inner⟩ := tokensFrom_closed read
  refine .of_lexemes (fun token member => (inner token member).inside) rfl ?_
  rw [same, again, Token.displace_lexemes, Token.displace_lexemes]

/-- A comment behind a character of a text splits the text, and nothing else. -/
theorem TakenAsText.scan_commented {front rest : List Char} {c : Char}
    (taken : TakenAsText (front ++ [c]) rest) (visible : Text.isBlank c = false) (slash : c ≠ '\\')
    (brace : c ≠ '\x7b') {inside : List Char} (plain : ¬ ['#', '\x7d'] <:+: inside)
    (first : inside.head? ≠ some '-') (last : inside.getLast? ≠ some '-') :
    Alike (fun _ _ => True) Echoes (scan {} false ⟨front ++ c :: rest, {}⟩)
      (scan {} false ⟨front ++ c :: (['\x7b', '#'] ++ (inside ++ (['#', '\x7d'] ++ rest))), {}⟩) := by
  obtain ⟨tokens, run, left, mark, inner, reads⟩ := taken.anyRest visible slash brace
  obtain ⟨scanned, ran⟩ := reads rest
  obtain ⟨scannedOther, ranOther⟩ := reads (['\x7b', '#'] ++ (inside ++ (['#', '\x7d'] ++ rest)))
  have member : ['\x7b', '#'] ∈ openersOf {} := by simp [openersOf_usual]
  have unmarked : startsWithMarker (inside ++ (['#', '\x7d'] ++ rest)) = false :=
    not_startsWithMarker first rest
  obtain ⟨place, comment⟩ := scan_comment plain first last rest (mark.past (left ++ [c]))
  obtain ⟨behind, one, two, here, there, next, alike⟩ :=
    scan_places rest (mark.past (left ++ [c])) place
  rw [here] at ran
  rw [textRun_at_opener apart_usual member] at ranOther
  -- The comment's opener does not trim, and what trims behind it takes nothing of the first piece.
  rw [scanned, scan_run ran, scannedOther, scan_run ranOther, comment, scan_run there,
    trimmedRun_opener member, unmarked, ← next]
  generalize scan {} false one = ones at alike ⊢
  generalize scan {} false two = twos at alike ⊢
  cases alike with
  | error => exact .error trivial
  | ok rest =>
      refine .ok (Echoes.append ?_ fun token member => (inner token member).inside)
      have something : run ++ [c] ≠ [] := List.append_ne_nil_of_right_ne_nil _ (List.cons_ne_nil c [])
      have split := rest.text something (trimmedRun (openersOf {}) behind one.rest) mark mark place
      simpa [trimmedRun_visible visible, precede] using split

end Lexer

namespace Template

open Lexer Node
open Outcome (Alike)

theorem compile_eq_bind (limit : Int) (name source : String) :
    compile {} limit name source =
      match scan {} false ⟨source.toList, {}⟩ with
      | .ok tokens => ofTokens limit name source tokens
      | .error (cause, mark) => .error (.of (.lexical cause) (some ⟨name, mark⟩) (some source)) := by
  rw [compile, tokenize, Canonical.tokens_eq_scan]
  cases scan {} false ⟨source.toList, {}⟩ <;> rfl

/-- A comment in a text is invisible: with and without it the source compiles to the same body, places
aside, or does not compile. The last character before it is taken as text and is neither blank, which
could be trimmed, nor a backslash or brace, which could belong to the comment's opener; and the comment
has no hyphen of its own that would trim. -/
theorem compile_commented {before behind content : String} {c : Char}
    (ends : before.toList.getLast? = some c) (taken : TakenAsText before.toList behind.toList)
    (visible : Text.isBlank c = false) (slash : c ≠ '\\') (brace : c ≠ '\x7b')
    (closed : ¬ ['#', '\x7d'] <:+: content.toList) (first : content.toList.head? ≠ some '-')
    (last : content.toList.getLast? ≠ some '-') (limit : Int) (name : String) :
    let plain := compile {} limit name (before ++ behind)
    let commented := compile {} limit name (before ++ "\x7b#" ++ content ++ "#\x7d" ++ behind)
    ((∃ template, commented = .ok template) ↔ ∃ template, plain = .ok template) ∧
      ∀ template other, commented = .ok template → plain = .ok other →
        unplacedBody template.body = unplacedBody other.body := by
  intro plain commented
  have alike : Alike (fun _ _ => True) (fun template other => BodyLike template.body other.body)
      plain commented := by
    obtain ⟨front, same⟩ := List.getLast?_eq_some_iff.mp ends
    rw [same] at taken
    have scans := taken.scan_commented visible slash brace closed first last
    have spelled : (before ++ behind).toList = front ++ c :: behind.toList := by simp [same]
    have spelledOther : (before ++ "\x7b#" ++ content ++ "#\x7d" ++ behind).toList =
        front ++ c :: (['\x7b', '#'] ++ (content.toList ++ (['#', '\x7d'] ++ behind.toList))) := by
      simp [same]
    rw [← spelled, ← spelledOther] at scans
    simp only [plain, commented, compile_eq_bind]
    generalize scan {} false ⟨(before ++ behind).toList, {}⟩ = one at scans ⊢
    generalize scan {} false ⟨(before ++ "\x7b#" ++ content ++ "#\x7d" ++ behind).toList, {}⟩ = two
      at scans ⊢
    cases scans with
    | error => exact .error trivial
    | ok echoes => exact ofTokens_echoes echoes limit name _ _
  generalize plain = one at alike ⊢
  generalize commented = two at alike ⊢
  cases alike with
  | error => simp
  | ok like =>
      refine ⟨by simp, fun template other read again => ?_⟩
      cases read
      cases again
      exact Eq.symm like

/-- A comment between an escaped opener and a tag, in a text that the tag before it trims. -/
theorem compile_commented_escaped :
    let before := "\x7b\x7b x -\x7d\x7d  a\\\x7b% b"
    let behind := " c\x7b% if x %\x7d!\x7b% endif %\x7d"
    let plain := compile {} 64 "page" (before ++ behind)
    let commented := compile {} 64 "page" (before ++ "\x7b#" ++ " note #" ++ "#\x7d" ++ behind)
    TakenAsText before.toList behind.toList ∧ (∃ template, commented = .ok template) ∧
      ∀ template other, commented = .ok template → plain = .ok other →
        unplacedBody template.body = unplacedBody other.body := by
  intro before behind plain commented
  have turn : Turn false ⟨before.toList ++ behind.toList, {}⟩
      ([] ++ [⟨.expressionOpen, "\x7b\x7b", {}⟩, ⟨.identifier, "x", ⟨1, 4, 3⟩⟩,
        ⟨.expressionClose, "\x7d\x7d", ⟨1, 7, 6⟩⟩]) true
      ⟨"  a\\\x7b% b".toList ++ behind.toList, ⟨1, 9, 8⟩⟩ :=
    .read (by decide : textToken _ _ _ = ([], ⟨before.toList ++ behind.toList, {}⟩))
      (by decide : opener? _ _ = some ['\x7b', '\x7b']) (by decide)
  have taken : TakenAsText before.toList behind.toList :=
    ⟨_, _, _, ComesTo.none.turn turn, by decide, by decide⟩
  have compiles : ∃ template, compile {} 64 "page" (before ++ behind) = .ok template := ⟨_, by cbv⟩
  have closed : ¬ ['#', '\x7d'] <:+: " note #".toList := by decide
  have ends : before.toList.getLast? = some 'b' := by decide
  have same := compile_commented ends taken (by decide) (by decide) (by decide) closed (by decide)
    (by decide) 64 "page"
  exact ⟨taken, same.1.mpr compiles, same.2⟩

end Template

end Templating
