import Mathlib
import Templating.Proofs.Inheritance.Closure
import Templating.Proofs.Inheritance.Walk

/-!
Resolving follows the walk along the parents to its end and fails or succeeds as the walk ends there.
-/

namespace Templating.Resolver

variable {source : Source Unit} {options : Options} {lookup : Lookup} {absent : Fault}

/-- What a followed chain is judged by. -/
def Chain.result (above : Chain) : List Node × List String :=
  (above.body, above.names)

/-- A walk that has come to a template goes on to its end: it fails there, or the template has these
ancestors up to a root, and overriding decides. -/
inductive Completes (options : Options) (lookup : Lookup) (absent : Fault) (start : String)
    (trail : List Template) (template : Template) :
    Except Fault (List Node × List String) → Prop where
  | fails {further : List Template} {last : String} {fault : Fault}
      (arrives : Arrives options lookup start (trail ++ further) last)
      (stops : Stops options lookup absent (trail ++ further) last fault) :
      Completes options lookup absent start trail template (.error fault)
  | overlays {further ancestors : List Template} {last : String} {root : Template}
      {outcome : Except Fault (List Node × List String)}
      (arrives : Arrives options lookup start (trail ++ further) last)
      (found : lookup last = .ok root) (fresh : last ∉ names (trail ++ further))
      (short : (trail ++ further).length < options.depth) (parentless : root.parent? = none)
      (whole : further ++ [root] = template :: ancestors)
      (overlays : Overlays options.override template ancestors outcome) :
      Completes options lookup absent start trail template outcome

section

variable {trail : List Template} {template : Template} {start name : String}
  {before : State Unit}

theorem Arrives.next (arrives : Arrives options lookup start trail name)
    (found : lookup name = .ok template) (own : template.name = name) (fresh : name ∉ names trail)
    (short : trail.length < options.depth) {parentName : String}
    (extended : template.parent? = some parentName) :
    Arrives options lookup start (trail ++ [template]) parentName where
  walk := arrives.walk.step found extended
  distinct := by
    rw [names, List.map_append, List.nodup_append]
    refine ⟨arrives.distinct, List.nodup_singleton _, ?_⟩
    rintro other member _ single rfl
    rw [List.mem_singleton.mp single] at member
    exact fresh (own ▸ member)
  within := by
    rw [List.length_append]
    exact short

/-- A walk that fails where it is. -/
theorem Completes.here {fault : Fault} (arrives : Arrives options lookup start trail name)
    (stops : Stops options lookup absent trail name fault) :
    Completes options lookup absent start trail template (.error fault) := by
  refine .fails (?_ : Arrives options lookup start (trail ++ []) name) ?_ <;>
    simpa only [List.append_nil]

/-- Coming back to a template of the walk is blamed on the one before. -/
theorem chain_cyclic (left : Nat) (arrives : Arrives options lookup start trail name)
    (own : template.name = name) (atHand : ∀ other ∈ trail, before.table.get? other.name = some other)
    (again : name ∈ names trail) :
    Completes options lookup absent start trail template
      ((chain source options (names trail) left template before).1.map Chain.result) := by
  rcases List.eq_nil_or_concat' trail with rfl | ⟨nearer, closing, rfl⟩
  · cases again
  obtain ⟨earlier, between, split⟩ := List.append_of_mem again
  have last : (nearer ++ [closing]).getLast? = some closing := List.getLast?_concat
  have visited : (names (nearer ++ [closing])).contains template.name :=
    List.contains_iff_mem.mpr (own ▸ again)
  have known := atHand closing (List.mem_append_right _ List.mem_cons_self)
  have closes : ((names (nearer ++ [closing])).getLast?.bind before.table.get?).getD template =
      closing := by
    rw [names, List.map_append, List.map_singleton, List.getLast?_concat, Option.bind_some, known]
    rfl
  rw [chain.eq_def]
  dsimp only
  rw [if_pos visited, Run.get_bind, cycleFault, own, cycleThrough_eq split arrives.distinct, closes]
  exact .here arrives (.cyclic split last)

/-- A walk that has used up the limit goes no further. -/
theorem chain_full (arrives : Arrives options lookup start trail name)
    (found : lookup name = .ok template) (own : template.name = name)
    (fresh : name ∉ names trail) (full : trail.length = options.depth) :
    Completes options lookup absent start trail template
      ((chain source options (names trail) 0 template before).1.map Chain.result) := by
  have unvisited : ¬ (names trail).contains template.name :=
    fun visited => fresh (own ▸ List.contains_iff_mem.mp visited)
  rw [chain.eq_def]
  dsimp only
  rw [if_neg unvisited, lengthFault, own]
  exact .here arrives (.tooLong found fresh (Nat.le_of_eq full.symm))

/-- A template without a parent is a chain by itself. -/
theorem chain_root (left : Nat) (arrives : Arrives options lookup start trail name)
    (found : lookup name = .ok template) (own : template.name = name)
    (fresh : name ∉ names trail) (short : trail.length < options.depth)
    (parentless : template.parent? = none) :
    Completes options lookup absent start trail template
      ((chain source options (names trail) (left + 1) template before).1.map Chain.result) := by
  have alone : chain source options (names trail) (left + 1) template before =
      (.ok ⟨template.body, [(template.name, template.source)], [template.name]⟩, before) :=
    chain_ok.mpr ⟨own ▸ fresh, left, rfl, .inl ⟨parentless, rfl, rfl⟩⟩
  rw [alone]
  have whole : [] ++ [template] = template :: [] := rfl
  refine .overlays ?_ found ?_ ?_ parentless whole (.merged fun _ => trivial) <;>
    simpa only [List.append_nil]

/-- A template with a parent fails as loading the parent, following its chain or overriding does. -/
theorem chain_child (left : Nat) (fresh : template.name ∉ names trail) {parentName : String}
    (extended : template.parent? = some parentName) :
    chain source options (names trail) (left + 1) template before =
      (do
        let parent ← loadReferenced source parentName (some template) template.parentPosition
        let above ← chain source options (names (trail ++ [template])) left parent
        let body ← override options.override template parentName above.body
        return ⟨body, above.sources.set template.name template.source,
          template.name :: above.names⟩ : Resolving Unit Chain) before := by
  have unvisited : ¬ (names trail).contains template.name :=
    fun visited => fresh (List.contains_iff_mem.mp visited)
  rw [chain.eq_def]
  dsimp only
  rw [if_neg unvisited, extended, names, names, List.map_append]
  rfl

end

theorem Overlays.of_ok {mode : OverrideMode} {template : Template} {ancestors : List Template}
    {result : List Node × List String} (overlays : Overlays mode template ancestors (.ok result)) :
    (mode = .strict → template.Complete ancestors) ∧
      result = (template.merged ancestors, names (template :: ancestors)) := by
  cases overlays with
  | merged complete => exact ⟨complete, rfl⟩

theorem Overlays.of_error {mode : OverrideMode} {template parent : Template}
    {ancestors : List Template} {fault : Fault}
    (overlays : Overlays mode parent ancestors (.error fault)) :
    Overlays mode template (parent :: ancestors) (.error fault) := by
  cases overlays with
  | @unknown nearer _ _ _ _ _ _ strict split complete unknown =>
      have longer := congrArg (template :: ·) split
      rw [← List.cons_append] at longer
      exact .unknown strict longer complete unknown

/-- Overriding goes on from what the parent and its ancestors give. -/
theorem Overlays.child {template parent : Template} {ancestors : List Template} {above : Chain}
    (overlays : Overlays options.override parent ancestors (.ok above.result))
    (middle : State Unit) (sources : Dictionary String) :
    Overlays options.override template (parent :: ancestors)
      (((do
        let body ← override options.override template parent.name above.body
        return ⟨body, sources, template.name :: above.names⟩ : Resolving Unit Chain)
          middle).1.map Chain.result) := by
  obtain ⟨complete, result⟩ := overlays.of_ok
  obtain ⟨body, listed⟩ := Prod.mk.inj result
  by_cases known : options.override = .strict →
      unknownBlocks template.overrides above.body = []
  · rw [Run.bind_ok (override_known parent.name known middle)]
    have whole : Overlays options.override template (parent :: ancestors)
        (.ok (template.merged (parent :: ancestors), names (template :: parent :: ancestors))) :=
      .merged fun strict => ⟨body ▸ known strict, complete strict⟩
    rw [Template.merged, ← body] at whole
    rw [names, List.map_cons, ← names, ← listed] at whole
    exact whole
  · obtain ⟨strict, some⟩ := Classical.not_imp.mp known
    obtain ⟨⟨name, block⟩, others, unknown⟩ := List.exists_cons_of_ne_nil some
    rw [strict, Run.bind_error (override_unknown unknown middle), ← strict]
    rw [body] at unknown
    exact .unknown strict (List.nil_append _).symm (complete strict) unknown

/-- A template's walk goes on with its parent's; overriding in the parent is continued. -/
theorem Completes.child {start : String} {trail : List Template} {template parent : Template}
    {outcome inner : Except Fault (List Node × List String)}
    (completes : Completes options lookup absent start (trail ++ [template]) parent inner)
    (failing : ∀ fault, inner = .error fault → outcome = .error fault)
    (continues : ∀ ancestors, Overlays options.override parent ancestors inner →
      Overlays options.override template (parent :: ancestors) outcome) :
    Completes options lookup absent start trail template outcome := by
  have assoc : ∀ further, trail ++ [template] ++ further = trail ++ template :: further :=
    fun further => by rw [List.append_assoc, List.singleton_append]
  cases completes with
  | @fails further last fault arrives stops =>
      rw [assoc] at arrives stops
      rw [failing fault rfl]
      exact .fails arrives stops
  | @overlays further ancestors last root _ arrives found fresh short parentless whole overlays =>
      rw [assoc] at arrives fresh short
      have longer : template :: further ++ [root] = template :: parent :: ancestors := by
        rw [List.cons_append, whole]
      exact .overlays arrives found fresh short parentless longer (continues ancestors overlays)

/-- The chain of a template that a walk has come to ends as the walk does. -/
theorem chain_completes
    (own : ∀ name template, lookup name = .ok template → template.name = name)
    {start name : String} {trail : List Template} {left : Nat} {template : Template}
    {before : State Unit} (arrives : Arrives options lookup start trail name)
    (found : lookup name = .ok template) (room : trail.length + left = options.depth)
    (stored : before.lookup source = lookup)
    (atHand : ∀ other ∈ trail ++ [template], before.table.get? other.name = some other) :
    Completes options lookup absent start trail template
      ((chain source options (names trail) left template before).1.map Chain.result) := by
  induction left generalizing trail name template before with
  | zero =>
      have ownName := own name template found
      by_cases again : name ∈ names trail
      · exact chain_cyclic 0 arrives ownName
          (fun other member => atHand other (List.mem_append_left _ member)) again
      · exact chain_full arrives found ownName again room
  | succ left ih =>
      have ownName := own name template found
      have short : trail.length < options.depth := by omega
      by_cases again : name ∈ names trail
      · exact chain_cyclic (left + 1) arrives ownName
          (fun other member => atHand other (List.mem_append_left _ member)) again
      · cases extended : template.parent? with
        | none => exact chain_root left arrives found ownName again short extended
        | some parentName =>
            have next := arrives.next found ownName again short extended
            obtain ⟨between, loads, kept⟩ := loadReferenced_run source parentName (some template)
              template.parentPosition before
            rw [stored] at loads kept
            rw [chain_child left (ownName ▸ again) extended]
            rcases answer : lookup parentName with (_ | fault) | parent
            · rw [answer] at loads
              rw [Run.bind_error loads]
              exact .fails next (.missing answer List.getLast?_concat)
            · rw [answer] at loads
              rw [Run.bind_error loads]
              exact .fails next (.broken answer)
            · rw [answer] at loads
              rw [Run.bind_ok loads]
              have loaded := loadReferenced_ok.mp loads
              have ownParent := own parentName parent answer
              have atHandNext : ∀ other ∈ trail ++ [template] ++ [parent],
                  between.table.get? other.name = some other := by
                intro other member
                rcases List.mem_append.mp member with old | new
                · exact load_extends loaded _ _ (atHand other old)
                · rw [List.mem_singleton.mp new, ownParent]
                  exact load_found loaded
              have room : (trail ++ [template]).length + left = options.depth := by
                rw [List.length_append, List.length_singleton]
                omega
              have completes := ih next answer room kept atHandNext
              subst ownParent
              cases followed : chain source options (names (trail ++ [template])) left parent
                  between with
              | mk result middle =>
                  rw [followed] at completes
                  cases result with
                  | error fault =>
                      rw [Run.bind_error followed]
                      exact completes.child (fun _ same => same) fun _ overlays => overlays.of_error
                  | ok above =>
                      rw [Run.bind_ok followed]
                      exact completes.child (fun _ same => by cases same) fun _ overlays =>
                        overlays.child middle _

/-- The chain of a template that is at hand ends as the walk from its name does. -/
theorem chain_ends (own : ∀ name template, lookup name = .ok template → template.name = name)
    (absent : Fault) {name : String} {template : Template} {before : State Unit}
    (found : lookup name = .ok template) (stored : before.lookup source = lookup)
    (atHand : before.table.get? name = some template) :
    ∃ trail last, Arrives options lookup name trail last ∧
      Ends options lookup absent trail last
        ((chain source options [] options.depth template before).1.map Chain.result) := by
  have start : Arrives options lookup name [] name := ⟨.start, List.nodup_nil, Nat.zero_le _⟩
  have atHand : ∀ other ∈ [] ++ [template], before.table.get? other.name = some other := by
    intro other member
    rw [List.mem_singleton.mp member, own name template found]
    exact atHand
  have completes : Completes options lookup absent name [] template
      ((chain source options [] options.depth template before).1.map Chain.result) :=
    chain_completes own start found (Nat.zero_add _) stored atHand
  cases outcome : (chain source options [] options.depth template before).1.map Chain.result with
  | error fault =>
      rw [outcome] at completes
      cases completes with
      | fails arrives stops => exact ⟨_, _, arrives, .stopped stops⟩
      | overlays arrives found fresh short parentless whole overlays =>
          exact ⟨_, _, arrives, .root found fresh short parentless whole overlays⟩
  | ok result =>
      rw [outcome] at completes
      cases completes with
      | overlays arrives found fresh short parentless whole overlays =>
          exact ⟨_, _, arrives, .root found fresh short parentless whole overlays⟩

/-- The fault of an inclusion that cannot be resolved is that of the walk from the included name. -/
def FailsAtInclusion (options : Options) (lookup : Lookup) (fault : Fault) : Prop :=
  ∃ included referrer position source trail last, Arrives options lookup included trail last ∧
    Ends options lookup (.of (.inheritance (.missingReferenced included referrer)) position source)
      trail last (.error fault)

theorem gather_fault (own : ∀ name template, lookup name = .ok template → template.name = name)
    {turns : Nat} {waiting : List Node.Inclusion} {sources : Dictionary String}
    {includes : Dictionary (List Node)} {before : State Unit} {fault : Fault}
    (stored : before.lookup source = lookup)
    (fails : (gather source options turns waiting sources includes before).1 = .error fault) :
    FailsAtInclusion options lookup fault := by
  induction turns generalizing waiting sources includes before with
  | zero => cases fails
  | succ turns ih =>
      rw [gather] at fails
      cases line : waiting.dropWhile fun next => includes.has next.name with
      | nil =>
          rw [line] at fails
          cases fails
      | cons next rest =>
          rw [line] at fails
          dsimp only at fails
          rw [Run.get_bind] at fails
          obtain ⟨between, loads, kept⟩ := loadReferenced_run source next.name
            (before.table.get? ((next.position.map (·.template)).getD "")) next.position before
          rw [stored] at loads kept
          have start : Arrives options lookup next.name [] next.name :=
            ⟨.start, List.nodup_nil, Nat.zero_le _⟩
          rcases answer : lookup next.name with (_ | broken) | included
          · rw [answer] at loads
            rw [Run.bind_error loads] at fails
            cases fails
            exact ⟨_, _, _, _, _, _, start, .stopped (.missingStart answer rfl)⟩
          · rw [answer] at loads
            rw [Run.bind_error loads] at fails
            cases fails
            exact ⟨_, "", none, none, _, _, start, .stopped (.broken answer)⟩
          · rw [answer] at loads
            rw [Run.bind_ok loads] at fails
            have walks : ∃ trail last, Arrives options lookup next.name trail last ∧
                Ends options lookup (.of (.inheritance (.missingReferenced next.name "")) none none)
                  trail last ((chain source options [] options.depth included between).1.map
                    Chain.result) :=
              chain_ends own _ answer kept (load_found (loadReferenced_ok.mp loads))
            obtain ⟨trail, last, arrives, ends⟩ := walks
            cases followed : chain source options [] options.depth included between with
            | mk result middle =>
                rw [followed] at ends
                cases result with
                | error broken =>
                    rw [Run.bind_error followed] at fails
                    cases fails
                    exact ⟨_, _, _, _, _, _, arrives, ends⟩
                | ok above =>
                    rw [Run.bind_ok followed] at fails
                    exact ih ((chain_lookup followed).trans kept) fails

end Templating.Resolver

namespace Templating

/-- A text that does not compile is blamed on its tokens or on its grammar. -/
theorem Template.compile_cause {delimiters : Delimiters} {limit : Int} {name source : String}
    {fault : Fault} (fails : compile delimiters limit name source = .error fault) :
    (∃ cause, fault.cause = .lexical cause) ∨ ∃ cause, fault.cause = .grammar cause := by
  rw [compile, tokenize] at fails
  split at fails
  case h_1 tokens _ =>
    rw [Outcome.ok_bind, ofTokens] at fails
    split at fails
    · cases fails
      exact .inr ⟨_, rfl⟩
    · split at fails
      · cases fails
        exact .inr ⟨_, rfl⟩
      · cases fails
  case h_2 =>
    cases fails
    exact .inl ⟨_, rfl⟩

namespace Resolver

variable {loader : Option Loader} {delimiters : Delimiters} {options : Options}

theorem State.OwnNamed.lookup {state : State Unit} (own : state.OwnNamed) (name : String)
    (template : Template)
    (found : state.lookup (Loader.source loader delimiters options) name = .ok template) :
    template.name = name := by
  refine own.find (?_ : state.find (Loader.source loader delimiters options) name = some template)
  rw [State.find_eq_lookup, found]
  rfl

/-- A template of the store that cannot be had does not compile. -/
theorem State.lookup_fault {state : State Unit} {name : String} {fault : Fault}
    (fails : state.lookup (Loader.source loader delimiters options) name = .error (.fault fault)) :
    ∃ text, Template.compile delimiters options.depth name text = .error fault := by
  rw [State.lookup] at fails
  split at fails
  · cases fails
  · rw [Loader.source_fetch] at fails
    split at fails
    · cases fails
    case h_2 text _ =>
      cases compiled : Template.compile delimiters options.depth name text with
      | ok template =>
          rw [compiled] at fails
          cases fails
      | error other =>
          rw [compiled] at fails
          cases fails
          exact ⟨text, compiled⟩

section

variable {source : Source Unit} {main : Template} {before middle : State Unit}

theorem adding_run (main : Template) (before : State Unit) :
    (modify fun state => if state.table.has main.name then state
      else { state with table := state.table.set main.name main } : Resolving Unit PUnit) before =
        (.ok ⟨⟩, before.adding main) :=
  rfl

theorem template_chain_error {fault : Fault} (followed :
    chain source options [] options.depth main (before.adding main) = (.error fault, middle)) :
    (template source options main before).1 = .error fault := by
  rw [template, Run.bind_ok (adding_run main before), Run.bind_error followed]

/-- Behind its chain a template resolves as its inclusions do. -/
theorem template_chain_ok {above : Chain} (followed :
    chain source options [] options.depth main (before.adding main) = (.ok above, middle)) :
    ∃ turns, (template source options main before).1 =
      (gather source options turns (Node.bodyInclusions above.body) above.sources [] middle).1.map
        fun gathered => ⟨main.name, above.body, gathered.1, gathered.2, above.names⟩ := by
  refine ⟨middle.table.length + source.known middle.supply + 1, ?_⟩
  rw [template, Run.bind_ok (adding_run main before), Run.bind_ok followed, Run.get_bind]
  cases gathers : gather source options (middle.table.length + source.known middle.supply + 1)
      (Node.bodyInclusions above.body) above.sources [] middle with
  | mk result after =>
      cases result with
      | ok gathered =>
          rw [Run.bind_ok gathers]
          rfl
      | error fault =>
          rw [Run.bind_error gathers]
          rfl

end

section

variable {lookup : Lookup} {before : State Unit}
  (own : before.OwnNamed) (stored : before.lookup (Loader.source loader delimiters options) = lookup)

include own stored

/-- A template by name fails as the walk from its name does, or goes on to its inclusions. -/
theorem named_ends (name : String) : ∃ trail last outcome,
    Arrives options lookup name trail last ∧
    Ends options lookup (.of (.inheritance (.missing name)) none none) trail last outcome ∧
    match outcome with
    | .error fault =>
      (named (Loader.source loader delimiters options) options name before).1 = .error fault
    | .ok (body, chain) => ∃ main sources turns middle,
      middle.lookup (Loader.source loader delimiters options) = lookup ∧
      (named (Loader.source loader delimiters options) options name before).1 =
        (gather (Loader.source loader delimiters options) options turns (Node.bodyInclusions body)
          sources [] middle).1.map fun gathered => ⟨main, body, gathered.1, gathered.2, chain⟩ := by
  obtain ⟨between, loads, kept⟩ :=
    load_run (Loader.source loader delimiters options) name before
  rw [stored] at loads kept
  have start : Arrives options lookup name [] name := ⟨.start, List.nodup_nil, Nat.zero_le _⟩
  rcases answer : lookup name with (_ | fault) | template
  · rw [answer] at loads
    refine ⟨_, _, _, start, .stopped (.missingStart answer rfl), ?_⟩
    dsimp only
    rw [named, Run.bind_ok loads]
    rfl
  · rw [answer] at loads
    refine ⟨_, _, _, start, .stopped (.broken answer), ?_⟩
    dsimp only
    rw [named, Run.bind_error loads]
  · rw [answer] at loads
    have owns : ∀ name template, lookup name = .ok template → template.name = name :=
      fun other found known => own.lookup other found (stored ▸ known)
    obtain ⟨trail, last, arrives, ends⟩ := chain_ends owns
      (.of (.inheritance (.missing name)) none none) answer kept (load_found loads)
    refine ⟨trail, last, _, arrives, ends, ?_⟩
    have same := State.adding_loaded (owns name template answer) loads
    rw [named, Run.bind_ok loads]
    cases followed : chain (Loader.source loader delimiters options) options [] options.depth
        template between with
    | mk result middle =>
        rw [← same] at followed
        cases result with
        | error fault => exact template_chain_error followed
        | ok above =>
            obtain ⟨turns, gathers⟩ := template_chain_ok followed
            refine ⟨template.name, above.sources, turns, middle, ?_, gathers⟩
            rw [same] at followed
            exact (chain_lookup followed).trans kept

omit own in
/-- Only overriding can find a block unknown. -/
theorem overlays_of_unknownBlock {trail : List Template} {last : String}
    {fault absent : Fault} {block child parent : String}
    (ends : Ends options lookup absent trail last (.error fault))
    (unknown : fault.cause = .inheritance (.unknownBlock block child parent))
    (other : absent.cause ≠ .inheritance (.unknownBlock block child parent)) :
    ∃ root leaf ancestors, lookup last = .ok root ∧ last ∉ names trail ∧
      trail.length < options.depth ∧ root.parent? = none ∧ trail ++ [root] = leaf :: ancestors ∧
      Overlays options.override leaf ancestors (.error fault) := by
  cases ends with
  | root found fresh short parentless whole overlays =>
      exact ⟨_, _, _, found, fresh, short, parentless, whole, overlays⟩
  | stopped stops =>
      cases stops with
      | missingStart => exact absurd unknown other
      | missing => cases unknown
      | cyclic => cases unknown
      | tooLong => cases unknown
      | broken fails =>
          rw [← stored] at fails
          obtain ⟨text, fails⟩ := State.lookup_fault fails
          obtain ⟨cause, same⟩ | ⟨cause, same⟩ := Template.compile_cause fails <;>
            rw [same] at unknown <;> cases unknown

/-- A block can be unknown only to a chain of distinct templates that is whole and not too long. -/
theorem chain_of_unknownBlock {start : String} {trail : List Template} {last : String}
    {fault absent : Fault} {block child parent : String}
    (arrives : Arrives options lookup start trail last)
    (ends : Ends options lookup absent trail last (.error fault))
    (unknown : fault.cause = .inheritance (.unknownBlock block child parent))
    (other : absent.cause ≠ .inheritance (.unknownBlock block child parent)) :
    ∃ root leaf ancestors, Arrives options lookup start trail root.name ∧
      lookup root.name = .ok root ∧ root.parent? = none ∧ trail ++ [root] = leaf :: ancestors ∧
      (names (leaf :: ancestors)).Nodup ∧ (leaf :: ancestors).length ≤ options.depth ∧
      Overlays options.override leaf ancestors (.error fault) := by
  obtain ⟨root, leaf, ancestors, found, fresh, short, parentless, whole, overlays⟩ :=
    overlays_of_unknownBlock stored ends unknown other
  obtain rfl : root.name = last := own.lookup last root (stored ▸ found)
  refine ⟨root, leaf, ancestors, arrives, found, parentless, whole, ?_, ?_, overlays⟩
  · rw [← whole, names, List.map_append, List.map_singleton, ← List.concat_eq_append,
      List.nodup_concat]
    exact ⟨fresh, arrives.distinct⟩
  · rw [← whole, List.length_append]
    exact short

/-- The names of a chain that resolves are those of the walk. -/
theorem Ends.names_eq {absent : Fault} {trail : List Template} {last : String} {body : List Node}
    {chain : List String} (ends : Ends options lookup absent trail last (.ok (body, chain))) :
    chain = names trail ++ [last] := by
  cases ends with
  | @root leaf root ancestors _ found _ _ _ whole overlays =>
      have ownName : root.name = last := own.lookup last root (stored ▸ found)
      obtain ⟨_, result⟩ := overlays.of_ok
      rw [(Prod.mk.inj result).2, ← whole, names, List.map_append, List.map_singleton, ownName]
      rfl

/-- A template by name resolves as the walk from its name ends, at the first name where that is
missing, does not compile, repeats another one, is beyond the limit or has no parent. What fails
besides is an inclusion, by the walk from the included name. Blocks are unknown to whole chains
only. -/
theorem named_classified (name : String) :
    (∃ trail last outcome,
      Arrives options lookup name trail last ∧
      Ends options lookup (.of (.inheritance (.missing name)) none none) trail last outcome ∧
      (∀ fault, outcome = .error fault →
        (named (Loader.source loader delimiters options) options name before).1 = .error fault) ∧
      ∀ body chain, outcome = .ok (body, chain) → chain = names trail ++ [last] ∧
        ((∃ resolved, (named (Loader.source loader delimiters options) options name before).1 =
            .ok resolved ∧ resolved.body = body ∧ resolved.chain = chain) ∨
          ∃ fault, (named (Loader.source loader delimiters options) options name before).1 =
            .error fault ∧ FailsAtInclusion options lookup fault)) ∧
    ∀ fault block child parent,
      (named (Loader.source loader delimiters options) options name before).1 = .error fault →
      fault.cause = .inheritance (.unknownBlock block child parent) →
      ∃ start trail root leaf ancestors,
        Arrives options lookup start trail root.name ∧ lookup root.name = .ok root ∧
        root.parent? = none ∧ trail ++ [root] = leaf :: ancestors ∧
        (names (leaf :: ancestors)).Nodup ∧ (leaf :: ancestors).length ≤ options.depth ∧
        Overlays options.override leaf ancestors (.error fault) := by
  have owns : ∀ name template, lookup name = .ok template → template.name = name :=
    fun other found known => own.lookup other found (stored ▸ known)
  obtain ⟨trail, last, outcome, arrives, ends, resolves⟩ := named_ends own stored name
  rcases outcome with fault | ⟨body, listed⟩
  · refine ⟨⟨trail, last, .error fault, arrives, ends, fun _ same => Except.error.inj same ▸ resolves,
      nofun⟩, fun other block child parent fails unknown => ?_⟩
    obtain rfl : fault = other := Except.error.inj (resolves.symm.trans fails)
    exact ⟨name, trail, chain_of_unknownBlock own stored arrives ends unknown (by simp [Located.of])⟩
  · obtain ⟨main, sources, turns, middle, kept, gathers⟩ := resolves
    have includes : ∀ fault,
        (named (Loader.source loader delimiters options) options name before).1 = .error fault →
          FailsAtInclusion options lookup fault := by
      intro fault fails
      rw [gathers] at fails
      cases gathered : (gather (Loader.source loader delimiters options) options turns
          (Node.bodyInclusions body) sources [] middle).1 with
      | ok found =>
          rw [gathered] at fails
          cases fails
      | error broken =>
          rw [gathered] at fails
          cases fails
          exact gather_fault owns kept gathered
    refine ⟨⟨trail, last, .ok (body, listed), arrives, ends, nofun, fun _ _ same => ?_⟩,
      fun fault block child parent fails unknown => ?_⟩
    · cases same
      refine ⟨ends.names_eq own stored, ?_⟩
      cases resolved : (named (Loader.source loader delimiters options) options name before).1 with
      | ok found =>
          refine .inl ⟨found, rfl, ?_⟩
          rw [gathers] at resolved
          obtain ⟨_, _, rfl⟩ := Outcome.map_eq_ok.mp resolved
          exact ⟨rfl, rfl⟩
      | error fault => exact .inr ⟨fault, rfl, includes fault resolved⟩
    · obtain ⟨included, referrer, position, source, walked, reached, arrived, ended⟩ :=
        includes fault fails
      exact ⟨included, walked,
        chain_of_unknownBlock own stored arrived ended unknown (by simp [Located.of])⟩

end

/-- A page whose parents come back to the first of them, which the second one's directive is blamed
for. -/
theorem named_classified_cycle : ∃ (before : State Unit) (texts : Dictionary String),
    before.OwnNamed ∧
    (named (Loader.source (some ⟨texts⟩) {} {}) {} "page" before).1 =
      .error (.of (.inheritance (.cyclic ["base", "layout", "base"])) (some ⟨"layout", ⟨1, 4, 3⟩⟩)
        (some "\x7b% extends 'base' %\x7d")) ∧
    ∃ trail last outcome,
      Arrives {} (before.lookup (Loader.source (some ⟨texts⟩) {} {})) "page" trail last ∧
      Ends {} (before.lookup (Loader.source (some ⟨texts⟩) {} {}))
        (.of (.inheritance (.missing "page")) none none) trail last outcome := by
  have own : State.OwnNamed { table := [], supply := () } := fun _ _ known => by cases known
  refine ⟨_, [("page", "\x7b% extends 'base' %\x7d"), ("base", "\x7b% extends 'layout' %\x7d"),
    ("layout", "\x7b% extends 'base' %\x7d")], own, by cbv, ?_⟩
  obtain ⟨⟨trail, last, outcome, arrives, ends, _⟩, _⟩ := named_classified own rfl "page"
  exact ⟨trail, last, outcome, arrives, ends⟩

end Resolver

end Templating
