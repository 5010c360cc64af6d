import Mathlib
import Templating.Proofs.Grammar.Origins
import Templating.Proofs.Inheritance.Closure

/-!
Where the parts of a resolved template come from. Whatever overriding and inclusion put together,
every place names the template that its part was written in, and the sources are those of the
templates that contribute.
-/

namespace Templating

open Node

namespace Template

/-- One of the tokens that the template was compiled from stands at this mark of its source. -/
def HasToken (template : Template) (mark : Mark) : Prop :=
  ∃ delimiters limit tokens,
    compile delimiters limit template.name template.source = .ok template ∧
      tokenize delimiters template.name template.source = .ok tokens ∧
        (∃ token ∈ tokens, token.mark = mark) ∧ mark.IsIn template.source.toList

/-- Every place in a compiled template is that of one of its tokens. -/
theorem IsCompiled.stands {template : Template} (original : template.IsCompiled) :
    BodyStands template.name template.HasToken template.body := by
  obtain ⟨delimiters, limit, compiled⟩ := original.own
  obtain ⟨tokens, tokenized, stand⟩ := compile_stands compiled
  intro shell member place found
  obtain ⟨mark, same, token, among, marked⟩ := stand shell member place found
  exact ⟨mark, same, delimiters, limit, tokens, compiled, tokenized, ⟨token, among, marked⟩,
    marked ▸ (tokenize_marks tokenized).2 token among⟩

/-- What all templates of a chain have, their merged body has. -/
theorem merged_throughout {holds : Node → Prop} {template : Template} {ancestors : List Template}
    (each : ∀ contributor ∈ template :: ancestors, contributor.Throughout holds) :
    BodyThroughout holds (template.merged ancestors) := by
  induction ancestors generalizing template with
  | nil => exact each template List.mem_cons_self
  | cons parent further ih =>
      obtain ⟨here, above⟩ := List.forall_mem_cons.mp each
      exact Resolver.overridden_throughout here (ih above)

end Template

/-- All places in the body of a resolved template and in the bodies of those it includes. -/
def Resolved.places (resolved : Resolved) : List (Option Position) :=
  bodyPlaces resolved.body ++ resolved.includes.flatMap fun entry => bodyPlaces entry.2

namespace Resolver

variable {options : Options} {find : String → Option Template}

/-- The template of the first name is that of the second or descends from it. -/
def OnChain (find : String → Option Template) (name contributor : String) : Prop :=
  ∃ template ancestors, find name = some template ∧ template.Descends find ancestors ∧
    contributor ∈ (template :: ancestors).map (·.name)

/-- The names mean compiled templates that are called so. -/
structure Originals (find : String → Option Template) : Prop where
  named : ∀ {name template}, find name = some template → template.name = name
  compiled : ∀ {name template}, find name = some template → template.IsCompiled

/-- The templates on a chain are those that their names mean. -/
theorem Originals.found_of_descends (originals : Originals find) {template : Template}
    {ancestors : List Template} (found : find template.name = some template)
    (descends : template.Descends find ancestors) :
    ∀ contributor ∈ template :: ancestors, find contributor.name = some contributor := by
  induction descends with
  | root => exact List.forall_mem_singleton.mpr found
  | @child template parent name further extended parentFound above ih =>
      have parentNamed := originals.named parentFound
      exact List.forall_mem_cons.mpr ⟨found, ih (parentNamed.symm ▸ parentFound)⟩

/-- A place of a token of a template that contributes to what this name means. -/
def Contributed (find : String → Option Template) (name : String) (place : Option Position) : Prop :=
  ∃ position template, place = some position ∧ find position.template = some template ∧
    OnChain find name position.template ∧ template.HasToken position.mark

/-- Every place in what a name yields is contributed by its chain. -/
theorem Originals.yields_places (originals : Originals find) {name : String} {body : List Node}
    (yields : Yields options find name body) :
    ∀ place ∈ bodyPlaces body, Contributed find name place := by
  obtain ⟨template, ancestors, above, found, descends, follows, rfl⟩ := yields
  have own := originals.named found
  have each := originals.found_of_descends (own.symm ▸ found) descends
  have stands : BodyThroughout (fun shell => ∀ place ∈ shell.places, Contributed find name place)
      (template.merged ancestors) := by
    refine Template.merged_throughout fun contributor member shell among place placed => ?_
    have known := each contributor member
    obtain ⟨mark, rfl, token⟩ := (originals.compiled known).stands shell among place placed
    exact ⟨_, contributor, rfl, known,
      ⟨template, ancestors, found, descends, List.mem_map_of_mem member⟩, token⟩
  intro place member
  obtain ⟨shell, among, placed⟩ := List.mem_flatMap.mp (follows.body ▸ member)
  exact stands shell among place placed

/-- The sources hold the templates of these names, each with its own text. -/
structure Quotes (find : String → Option Template) (names : String → Prop)
    (sources : Dictionary String) : Prop where
  keys : ∀ key, sources.has key = true ↔ names key
  texts : ∀ entry ∈ sources, ∃ template, find entry.1 = some template ∧ template.source = entry.2

/-- The key of a source means the template that the text belongs to. -/
theorem Quotes.get? {names : String → Prop} {sources : Dictionary String}
    (quotes : Quotes find names sources) {key : String} (named : names key) {template : Template}
    (found : find key = some template) : sources.get? key = some template.source := by
  have present := (quotes.keys key).mpr named
  rw [Dictionary.has_eq_isSome, Option.isSome_iff_exists] at present
  obtain ⟨text, known⟩ := present
  obtain ⟨other, same, owns⟩ := quotes.texts _ (Dictionary.mem_of_get? known)
  rw [found] at same
  cases same
  exact known.trans (congrArg some owns.symm)

theorem Quotes.update {names others : String → Prop} {sources further : Dictionary String}
    (quotes : Quotes find names sources) (more : Quotes find others further) :
    Quotes find (fun key => names key ∨ others key) (sources.update further) where
  keys key := by rw [Dictionary.has_update, quotes.keys, more.keys]
  texts entry member := (Dictionary.mem_update member).elim (quotes.texts entry) (more.texts entry)

theorem Quotes.congr {names others : String → Prop} {sources : Dictionary String}
    (quotes : Quotes find names sources) (same : ∀ key, names key ↔ others key) :
    Quotes find others sources :=
  ⟨fun key => (quotes.keys key).trans (same key), quotes.texts⟩

section

variable {source : Source Unit}

/-- The sources of a chain are those of its templates. -/
theorem chain_quotes {visited : List String} {left : Nat} {template : Template}
    {before after : State Unit} {above : Chain} (originals : Originals (before.find source))
    (found : before.find source template.name = some template)
    (run : chain source options visited left template before = (.ok above, after)) :
    Quotes (before.find source) (· ∈ above.names) above.sources := by
  induction left generalizing visited template before after above with
  | zero =>
      obtain ⟨_, _, same, _⟩ := chain_ok.mp run
      cases same
  | succ left ih =>
      obtain ⟨_, _, ⟨rfl⟩, ⟨_, rfl, rfl⟩ | ⟨_, parent, rest, _, between, _, _, loaded, followed, _,
        rfl⟩⟩ := chain_ok.mp run
      · refine ⟨fun key => ?_, List.forall_mem_singleton.mpr ⟨template, found, rfl⟩⟩
        rw [Dictionary.has_iff_mem_names]
        rfl
      · have known := load_iff_find.mp ⟨between, loaded⟩
        have kept := load_find loaded
        have quotes := ih (kept.symm ▸ originals)
          (by rw [kept, originals.named known, known]) followed
        rw [kept] at quotes
        refine ⟨fun key => ?_, fun entry member => ?_⟩
        · rw [Dictionary.has_set, quotes.keys, List.mem_cons]
        · obtain old | rfl := Dictionary.mem_set member
          · exact quotes.texts entry old
          · exact ⟨template, found, rfl⟩

/-- The names of a chain that is followed to its end are those on the chain in the store. -/
theorem chain_names {name : String} {left : Nat} {template : Template}
    {before after : State Unit} {above : Chain} (found : before.find source name = some template)
    (run : chain source options [] left template before = (.ok above, after)) (key : String) :
    key ∈ above.names ↔ OnChain (before.find source) name key := by
  obtain ⟨ancestors, descends, follows⟩ := chain_follows List.nodup_nil run
  have stored : template.Descends (before.find source) ancestors :=
    descends.mono fun other contributor known => by
      rw [← chain_find run]
      exact State.find_of_get? known
  rw [follows.names]
  constructor
  · exact fun member => ⟨template, ancestors, found, stored, member⟩
  · rintro ⟨other, others, same, again, member⟩
    rw [found] at same
    cases same
    exact stored.unique again ▸ member

/-- The invariant of the loop over the inclusions that wait: the sources are those of the chains of
the template itself and of what is included so far. -/
structure Attributed (options : Options) (find : String → Option Template) (name : String)
    (sources : Dictionary String) (includes : Dictionary (List Node)) : Prop where
  quotes : Quotes find (fun key => OnChain find name key ∨
    ∃ other, includes.has other = true ∧ OnChain find other key) sources
  yields : ∀ entry ∈ includes, Yields options find entry.1 entry.2

theorem Attributed.turn {name : String} {sources : Dictionary String}
    {includes : Dictionary (List Node)} {next : String} {above : Chain}
    (attributed : Attributed options find name sources includes)
    (quotes : Quotes find (OnChain find next) above.sources)
    (yields : Yields options find next above.body) :
    Attributed options find name (sources.update above.sources)
      (includes.set next above.body) where
  quotes := by
    refine (attributed.quotes.update quotes).congr fun key => ?_
    simp only [Dictionary.has_set, or_and_right, exists_or, exists_eq_left]
    exact or_assoc.trans (or_congr_right or_comm)
  yields entry member := by
    obtain old | rfl := Dictionary.mem_set member
    · exact attributed.yields entry old
    · exact yields

theorem gather_attributed {name : String} {turns : Nat} {waiting : List Inclusion}
    {sources : Dictionary String} {includes : Dictionary (List Node)} {before after : State Unit}
    {result : Dictionary String × Dictionary (List Node)} (originals : Originals find)
    (stored : before.find source = find)
    (attributed : Attributed options find name sources includes)
    (run : gather source options turns waiting sources includes before = (.ok result, after)) :
    Attributed options find name result.1 result.2 := by
  induction turns generalizing waiting sources includes before with
  | zero =>
      cases run
      exact attributed
  | succ turns ih =>
      obtain ⟨_, rfl, _⟩ | ⟨next, rest, included, above, between, middle, _, loaded, followed, run⟩ :=
        gather_ok.mp run
      · exact attributed
      · have known : find next.name = some included := stored ▸ load_iff_find.mp ⟨between, loaded⟩
        have kept : between.find source = find := (load_find loaded).trans stored
        have quotes := chain_quotes (kept.symm ▸ originals)
          (by rw [kept, originals.named known, known]) followed
        have names := chain_names (kept.symm ▸ known) followed
        rw [kept] at quotes names
        have yields : Yields options find next.name above.body :=
          stored ▸ yields_iff.mp ⟨included, above, between, middle, loaded, followed, rfl⟩
        exact ih ((chain_find followed).trans kept)
          (attributed.turn (quotes.congr names) yields) run

end

variable {loader : Option Loader} {delimiters : Delimiters}

/-- A store of templates that were compiled under the names that they have. -/
theorem originals_find {state : State Unit} (own : state.OwnNamed)
    (compiled : state.table.Each Template.IsCompiled) :
    Originals (state.find (Loader.source loader delimiters options)) where
  named found := own.find found
  compiled found := by
    rw [State.find, Option.or_eq_some_iff] at found
    obtain known | ⟨_, fetched⟩ := found
    · exact compiled.get? known
    · obtain ⟨text, _, same⟩ := Loader.source_fetch_ok.mp (Outcome.toOption_eq_some.mp fetched)
      exact ⟨delimiters, options.depth, _, text, same⟩

/-- Every place in a resolved template and in all that it includes is that of a token of a template
in the store, whose text the sources have under the name that the place gives. The sources are those
of the template's own chain and of the chains of what it includes, and no others. -/
theorem named_places {name : String} {before after : State Unit} {resolved : Resolved}
    (own : before.OwnNamed) (compiled : before.table.Each Template.IsCompiled)
    (run : named (Loader.source loader delimiters options) options name before =
      (.ok resolved, after)) :
    (∀ place ∈ resolved.places, ∃ position template, place = some position ∧
      before.find (Loader.source loader delimiters options) position.template = some template ∧
      resolved.sources.get? position.template = some template.source ∧
      template.HasToken position.mark) ∧
    (∀ key, resolved.sources.has key = true ↔ key ∈ resolved.chain ∨
      ∃ other, resolved.includes.has other = true ∧
        OnChain (before.find (Loader.source loader delimiters options)) other key) ∧
    ∀ key, key ∈ resolved.chain ↔
      OnChain (before.find (Loader.source loader delimiters options)) name key := by
  obtain ⟨main, between, loaded, run⟩ := named_ok.mp run
  obtain ⟨above, middle, result, followed, gathers, rfl⟩ := template_ok.mp run
  have found := load_iff_find.mp ⟨between, loaded⟩
  rw [State.adding_loaded (own.find found) loaded] at followed
  have originals : Originals (before.find (Loader.source loader delimiters options)) :=
    originals_find own compiled
  have kept := load_find loaded
  have names := chain_names (kept.symm ▸ found) followed
  have quotes := chain_quotes (kept.symm ▸ originals)
    (by rw [kept, originals.named found, found]) followed
  rw [kept] at names quotes
  have start : Attributed options (before.find (Loader.source loader delimiters options)) name
      above.sources [] :=
    ⟨quotes.congr fun key => (names key).trans (by simp [Dictionary.has]), List.forall_mem_nil _⟩
  have attributed := gather_attributed originals ((chain_find followed).trans kept) start gathers
  have quoted {place : Option Position} {start : String}
      (contributed : Contributed (before.find (Loader.source loader delimiters options)) start place)
      (among : start = name ∨ result.2.has start = true) :
      ∃ position template, place = some position ∧
        before.find (Loader.source loader delimiters options) position.template = some template ∧
        result.1.get? position.template = some template.source ∧
        template.HasToken position.mark := by
    obtain ⟨position, template, same, known, onChain, token⟩ := contributed
    refine ⟨position, template, same, known, attributed.quotes.get? ?_ known, token⟩
    obtain rfl | included := among
    · exact .inl onChain
    · exact .inr ⟨start, included, onChain⟩
  refine ⟨fun place member => ?_, fun key => ?_, names⟩
  · obtain own | included := List.mem_append.mp member
    · exact quoted (originals.yields_places
        (yields_iff.mp ⟨main, above, between, middle, loaded, followed, rfl⟩) place own) (.inl rfl)
    · obtain ⟨entry, among, inside⟩ := List.mem_flatMap.mp included
      refine quoted (originals.yields_places (attributed.yields entry among) place inside) (.inr ?_)
      exact (Dictionary.has_iff_mem_names _ _).mpr (List.mem_map_of_mem among)
  · rw [attributed.quotes.keys, names]

/-- A page that fills a block of its frame, in a branch of a condition, and includes a row. -/
theorem named_places_page : ∃ (texts : Dictionary String) (resolved : Resolved)
    (after : State Unit),
    named (Loader.source (some ⟨texts⟩) {} {}) {} "page" { table := [], supply := () } =
        (.ok resolved, after) ∧ resolved.sources.names = ["frame", "page", "row"] ∧
      (resolved.places.map fun place => (place.map Position.template).getD "") =
        ["frame", "frame", "frame", "frame", "page", "page", "row", "row"] ∧
      ∀ place ∈ resolved.places, ∃ position template, place = some position ∧
        State.find (Loader.source (some ⟨texts⟩) {} {}) { table := [], supply := () }
          position.template = some template ∧
        resolved.sources.get? position.template = some template.source ∧
        template.HasToken position.mark := by
  have resolves : ∃ resolved after, named (Loader.source (some ⟨[
      ("page", "\x7b% extends 'frame' %\x7d\x7b% block b %\x7d\x7b% include 'row' %\x7d" ++
        "\x7b% endblock %\x7d"),
      ("frame", "\x7b% if a %\x7d\x7b% elif c %\x7d\x7b% block b %\x7d\x7b% endblock %\x7d" ++
        "\x7b% endif %\x7d"),
      ("row", "\x7b\x7b 1 \x7d\x7d")]⟩) {} {}) {} "page" { table := [], supply := () } =
        (.ok resolved, after) ∧ resolved.sources.names = ["frame", "page", "row"] ∧
      (resolved.places.map fun place => (place.map Position.template).getD "") =
        ["frame", "frame", "frame", "frame", "page", "page", "row", "row"] :=
    ⟨_, _, by cbv, by cbv, by cbv⟩
  obtain ⟨resolved, after, run, keys, places⟩ := resolves
  have own : State.OwnNamed { table := [], supply := () } := fun _ _ known => by cases known
  exact ⟨_, resolved, after, run, keys, places, (named_places own .nil run).1⟩

end Resolver

end Templating
