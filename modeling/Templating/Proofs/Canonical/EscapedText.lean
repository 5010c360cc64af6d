import Templating.Proofs.Canonical.Seam
import Templating.Proofs.Lexer.Displaced
import Templating.Proofs.Lexer.Located

/-!
Escaped text survives: with delimiters that can be told apart it reads as one token that holds the
text, whatever the text is, and a tag behind it reads as it would by itself.
-/

namespace Templating

open Lexer Canonical

namespace Delimiters

variable {delimiters : Delimiters}

theorem Accepted.edges (accepted : delimiters.Accepted) :
    ∀ delimiter ∈ delimiters.all, isBlankEdged delimiter = false := by
  intro delimiter member
  unfold Accepted fault? at accepted
  split at accepted
  · cases accepted
  · rename_i edges
    rw [Bool.eq_false_iff]
    exact fun blank => edges (List.any_eq_true.mpr ⟨delimiter, member, blank⟩)

theorem Accepted.plain (accepted : delimiters.Accepted) :
    ∀ delimiter ∈ delimiters.all, isReserved delimiter = false := by
  intro delimiter member
  unfold Accepted fault? at accepted
  split at accepted
  · cases accepted
  · split at accepted
    · cases accepted
    · rename_i reserved
      rw [Bool.eq_false_iff]
      exact fun found => reserved (List.any_eq_true.mpr ⟨delimiter, member, found⟩)

theorem Accepted.ambiguity (accepted : delimiters.Accepted) :
    ambiguity? delimiters.openers = none := by
  unfold Accepted fault? at accepted
  split at accepted
  · cases accepted
  · split at accepted
    · cases accepted
    · exact Option.map_eq_none_iff.mp accepted

/-- Openers without an ambiguity are prefixes of themselves only. -/
theorem pairwise_of_ambiguity?_eq_none {openers : List String}
    (clear : ambiguity? openers = none) :
    openers.Pairwise fun first second => overlap first second = false := by
  induction openers with
  | nil => exact .nil
  | cons first rest ih =>
      rw [ambiguity?] at clear
      split at clear
      · cases clear
      · rename_i none
        refine List.pairwise_cons.mpr ⟨fun second member => ?_, ih clear⟩
        exact Bool.eq_false_iff.mpr (List.find?_eq_none.mp none second member)

theorem overlap_comm (first second : String) : overlap first second = overlap second first :=
  Bool.or_comm _ _

/-- No opener starts another one. -/
theorem Accepted.eq_of_overlap (accepted : delimiters.Accepted) {first second : String}
    (memberFirst : first ∈ delimiters.openers) (memberSecond : second ∈ delimiters.openers)
    (overlaps : overlap first second = true) : first = second := by
  have clear := pairwise_of_ambiguity?_eq_none accepted.ambiguity
  simp only [openers, List.pairwise_cons, List.mem_cons, List.not_mem_nil, or_false,
    forall_eq_or_imp, forall_eq] at clear memberFirst memberSecond
  obtain ⟨⟨expressionBlock, expressionComment⟩, blockComment, -⟩ := clear
  rcases memberFirst with rfl | rfl | rfl <;> rcases memberSecond with rfl | rfl | rfl
  any_goals rfl
  all_goals
    first
    | simp_all
    | rw [overlap_comm] at overlaps; simp_all

/-- Openers without white space can be told apart in any text. -/
theorem Accepted.openersApart (accepted : delimiters.Accepted)
    (visible : ∀ opener ∈ delimiters.openers, ∀ c ∈ opener.toList, Text.isBlank c = false) :
    OpenersApart (openersOf delimiters) := by
  have among : ∀ opener ∈ delimiters.openers, opener ∈ delimiters.all := by
    intro opener member
    simp only [openers, all, List.mem_cons, List.not_mem_nil, or_false] at member ⊢
    tauto
  refine ⟨?_, ?_, ?_, ?_⟩
  · intro member
    obtain ⟨opener, listed, empty⟩ := List.mem_map.mp member
    exact accepted.nonempty opener (among opener listed) empty
  · intro text member slash
    obtain ⟨opener, listed, rfl⟩ := List.mem_map.mp member
    have plain := accepted.plain opener (among opener listed)
    rw [isReserved, Bool.or_eq_false_iff] at plain
    rw [String.contains_char_eq] at plain
    simp_all
  · intro text member
    obtain ⟨opener, listed, rfl⟩ := List.mem_map.mp member
    exact visible opener listed
  · intro first memberFirst second memberSecond starts
    obtain ⟨opener, listed, rfl⟩ := List.mem_map.mp memberFirst
    obtain ⟨other, listedOther, rfl⟩ := List.mem_map.mp memberSecond
    have overlaps : overlap opener other = true := by
      rw [overlap, List.isPrefixOf_iff_prefix.mpr starts, Bool.or_true]
    rw [accepted.eq_of_overlap listed listedOther overlaps]

/-- A delimiter starts with a character that is not white space. -/
theorem Accepted.visible_start (accepted : delimiters.Accepted) {delimiter : String}
    (member : delimiter ∈ delimiters.all) :
    ∃ c rest, delimiter.toList = c :: rest ∧ Text.isBlank c = false := by
  obtain ⟨c, rest, spelled⟩ := List.exists_cons_of_ne_nil (accepted.nonempty delimiter member)
  refine ⟨c, rest, spelled, ?_⟩
  have edges := accepted.edges delimiter member
  rw [isBlankEdged, Bool.or_eq_false_iff, bne_eq_false_iff_eq] at edges
  have trimmed := congrArg String.toList edges.2
  rw [Text.trim, String.toList_ofList, spelled] at trimmed
  rw [Bool.eq_false_iff]
  intro blank
  have lengths := congrArg List.length trimmed
  have shorter := (List.dropWhile_suffix Text.isBlank (l := rest)).length_le
  have shorterEnd := (List.dropWhile_suffix Text.isBlank
    (l := (Text.trimStart (c :: rest)).reverse)).length_le
  simp only [Text.trimEnd, List.length_reverse, List.length_cons, Text.trimStart,
    List.dropWhile_cons, blank, if_true] at lengths shorterEnd
  omega

end Delimiters

namespace Canonical

variable {delimiters : Delimiters}

theorem tokens_eq_scan (delimiters : Delimiters) (source : String) :
    tokens delimiters source = scan delimiters false ⟨source.toList, {}⟩ :=
  rfl

theorem tokenize_eq_ok {name source : String} {tokens : List Token} :
    tokenize delimiters name source = .ok tokens ↔
      scan delimiters false ⟨source.toList, {}⟩ = .ok tokens := by
  rw [tokenize, tokens_eq_scan]
  cases scan delimiters false ⟨source.toList, {}⟩ <;> simp

theorem scan_alike (delimiters : Delimiters) (trims : Bool) {reader moved : Reader} {origin : Mark}
    (displaced : reader.Displaced origin moved) :
    Outcome.Alike (Stop.Displaced origin) (fun tokens others => others = tokens.map (.displace origin))
      (scan delimiters trims reader) (scan delimiters trims moved) := by
  rw [scan, scan, displaced.rest]
  exact tokensFrom_displaced delimiters (openersOf delimiters) reader.rest.length trims displaced

/-- What can be read by itself is read at any place, displaced to it. -/
theorem scan_displaced {text : List Char} {tokens : List Token} {trims : Bool}
    (read : scan delimiters trims ⟨text, {}⟩ = .ok tokens) (origin : Mark) :
    scan delimiters trims ⟨text, origin⟩ = .ok (tokens.map (Token.displace origin)) := by
  have start : Reader.Displaced origin ⟨text, {}⟩ ⟨text, origin⟩ :=
    ⟨rfl, Mark.displaced_start origin⟩
  have alike := scan_alike delimiters trims start
  rw [read] at alike
  generalize scan delimiters trims ⟨text, origin⟩ = moved at alike ⊢
  cases alike with
  | ok same => rw [same]

/-- Escaped text reads as one token with the text, and leaves a tag behind it as it is, displaced by
the extent of the escaped text. -/
theorem tokenize_escapeText (accepted : delimiters.Accepted)
    (visible : ∀ opener ∈ delimiters.openers, ∀ c ∈ opener.toList, Text.isBlank c = false)
    {text : String} (nonempty : text ≠ "") (name : String) :
    tokenize delimiters name (escapeText delimiters text false) =
        .ok [⟨.text, text, {}⟩,
          ⟨.endOfInput, "", .behind (escapeText delimiters text false).toList⟩] ∧
      ∀ opener, opener = delimiters.expressionOpen ∨ opener = delimiters.blockOpen →
        ∀ rest tokens, tokenize delimiters name (opener ++ " " ++ rest) = .ok tokens →
          tokenize delimiters name (escapeText delimiters text true ++ (opener ++ " " ++ rest)) =
            .ok (⟨.text, text, {}⟩ ::
              tokens.map (.displace (.behind (escapeText delimiters text true).toList))) := by
  have apart := accepted.openersApart visible
  have run : runTokens text.toList {} = [⟨.text, text, {}⟩] := by
    simp [runTokens, nonempty]
  refine ⟨?_, ?_⟩
  · have spelled : (escapeText delimiters text false).toList =
        escapeRun (openersOf delimiters) 0 0 text.toList := by
      simp [escapeText, openersOf]
    obtain ⟨after, reads⟩ := textRun_escapeRun_end apart {} text.toList
    rw [← spelled] at reads
    have past : after = Mark.past {} (escapeText delimiters text false).toList := by
      refine textRun_past
        (?_ : textRun (openersOf delimiters) 0 0 {} (_ ++ []) = (text.toList, ⟨[], after⟩))
      rw [List.append_nil]
      exact reads
    rw [tokenize_eq_ok, scan_textEnd apart reads, run, past, Mark.past_start]
    rfl
  · intro opener tag rest tokens read
    have listed : delimiters.commentClose ∈ delimiters.all := by simp [Delimiters.all]
    obtain ⟨c, close, closes, visibleClose⟩ := accepted.visible_start listed
    have tag : opener.toList = delimiters.expressionOpen.toList ∨
        opener.toList = delimiters.blockOpen.toList :=
      tag.imp (congrArg String.toList) (congrArg String.toList)
    have spelled : (opener ++ " " ++ rest).toList = opener.toList ++ ' ' :: rest.toList := by
      simp
    rw [tokenize_eq_ok, spelled] at read
    rw [tokenize_eq_ok, String.toList_append, spelled,
      scan_escapeText apart closes visibleClose tag text rest.toList {}, Mark.past_start,
      scan_displaced read, run]
    rfl

/-- A text with an escaped opener in it that ends in half an opener, before an output. -/
theorem tokenize_escapeText_straddling : ∃ tokens,
    Delimiters.Accepted {} ∧
      (∀ opener ∈ Delimiters.openers {}, ∀ c ∈ opener.toList, Text.isBlank c = false) ∧
      tokenize {} "page" ("\x7b\x7b" ++ " " ++ "x \x7d\x7d") = .ok tokens ∧
      tokenize {} "page" (escapeText {} "a\\\x7b% b\x7b" true ++
          ("\x7b\x7b" ++ " " ++ "x \x7d\x7d")) =
        .ok (⟨.text, "a\\\x7b% b\x7b", {}⟩ ::
          tokens.map (.displace (.behind (escapeText {} "a\\\x7b% b\x7b" true).toList))) := by
  have visible : ∀ opener ∈ Delimiters.openers {}, ∀ c ∈ opener.toList, Text.isBlank c = false := by
    simp [Delimiters.openers, Text.isBlank]
  have reads : ∃ tokens, tokenize {} "page" ("\x7b\x7b" ++ " " ++ "x \x7d\x7d") = .ok tokens :=
    ⟨_, by cbv⟩
  obtain ⟨tokens, read⟩ := reads
  obtain ⟨_, tags⟩ := tokenize_escapeText Delimiters.accepted_usual visible
    (by decide : "a\\\x7b% b\x7b" ≠ "") "page"
  exact ⟨tokens, Delimiters.accepted_usual, visible, read, tags _ (.inl rfl) _ tokens read⟩

end Canonical

end Templating
