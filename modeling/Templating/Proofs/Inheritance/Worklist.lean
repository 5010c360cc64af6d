import Mathlib.Data.List.Perm.Subperm
import Templating.Proofs.Inheritance.Inclusions
import Templating.Proofs.Inheritance.Store
import Templating.Proofs.Inheritance.Turns
import Templating.Proofs.Loader

/-!
The loop over the inclusions that wait: one turn keeps its invariant, the loop ends before its turns
do, and at its end the templates that can be reached are included and no others.
-/

namespace Templating.Resolver

open Node

variable {source : Source Unit} {options : Options} {find : String → Option Template}

/-- The body includes the template itself, or a template that it includes does. -/
inductive Reached (options : Options) (find : String → Option Template) (root : List Node) :
    String → Prop where
  | direct {next : Inclusion} (member : next ∈ bodyInclusions root) : Reached options find root
      next.name
  | through {name : String} {body : List Node} {next : Inclusion}
      (reached : Reached options find root name) (yields : Yields options find name body)
      (member : next ∈ bodyInclusions body) : Reached options find root next.name

/-- What the body includes is included or waits. -/
def Covers (waiting : List Inclusion) (includes : Dictionary (List Node)) (body : List Node) :
    Prop :=
  ∀ next ∈ bodyInclusions body,
    includes.has next.name = true ∨ next.name ∈ waiting.map (·.name)

/-- The invariant of the loop. -/
structure Gathered (options : Options) (find : String → Option Template) (root : List Node)
    (waiting : List Inclusion) (includes : Dictionary (List Node)) : Prop where
  distinct : includes.names.Nodup
  waits : ∀ next ∈ waiting, Reached options find root next.name
  reached : ∀ name, includes.has name = true → Reached options find root name
  yields : ∀ name body, includes.get? name = some body → Yields options find name body
  root : Covers waiting includes root
  inner : ∀ name body, includes.get? name = some body → Covers waiting includes body

theorem Gathered.start (root : List Node) :
    Gathered options find root (bodyInclusions root) [] where
  distinct := List.nodup_nil
  waits _ member := .direct member
  reached _ has := by cases has
  yields _ _ found := by cases found
  root _ member := .inr (List.mem_map_of_mem member)
  inner _ _ found := by cases found

/-- Covered inclusions stay covered by a turn. -/
theorem Covers.turn {waiting rest : List Inclusion} {includes : Dictionary (List Node)}
    {next : Inclusion} {outer body : List Node} (covers : Covers waiting includes outer)
    (first : pending includes waiting = next :: rest) :
    Covers (rest ++ bodyInclusions body) (includes.set next.name body) outer := by
  obtain ⟨absent, passed, rfl, old⟩ := pending_cons first
  have kept (name : String) (has : includes.has name = true) :
      (includes.set next.name body).has name = true := by
    rw [Dictionary.set_of_absent absent, Dictionary.has, List.any_append]
    exact Bool.or_eq_true_iff.mpr (.inl has)
  intro other member
  obtain has | waits := covers other member
  · exact .inl (kept _ has)
  · obtain ⟨same, among, name⟩ := List.mem_map.mp waits
    rw [← name]
    obtain among | among := List.mem_append.mp among
    · exact .inl (kept _ (old same among))
    · obtain rfl | among := List.mem_cons.mp among
      · left
        rw [Dictionary.has_eq_isSome, Dictionary.get?_set_self]
        rfl
      · exact .inr (List.mem_map_of_mem (List.mem_append_left _ among))

theorem Gathered.turn {root body : List Node} {waiting rest : List Inclusion}
    {includes : Dictionary (List Node)} {next : Inclusion}
    (gathered : Gathered options find root waiting includes)
    (first : pending includes waiting = next :: rest)
    (yields : Yields options find next.name body) :
    Gathered options find root (rest ++ bodyInclusions body) (includes.set next.name body) := by
  obtain ⟨absent, passed, split, old⟩ := pending_cons first
  have reached : Reached options find root next.name :=
    gathered.waits next (split ▸ List.mem_append_right _ List.mem_cons_self)
  have found (name : String) (content : List Node)
      (get : (includes.set next.name body).get? name = some content) :
      name = next.name ∧ content = body ∨ includes.get? name = some content := by
    rw [Dictionary.get?_set] at get
    split at get
    · rename_i same
      cases get
      exact .inl ⟨same, rfl⟩
    · exact .inr get
  constructor
  case distinct => exact Dictionary.nodup_set_of_absent absent gathered.distinct body
  case waits =>
    intro other member
    obtain among | among := List.mem_append.mp member
    · exact gathered.waits other
        (split ▸ List.mem_append_right _ (List.mem_cons_of_mem _ among))
    · exact .through reached yields among
  case reached =>
    intro name has
    rw [Dictionary.has_eq_isSome, Dictionary.get?_set] at has
    split at has
    · rename_i same
      rw [same]
      exact reached
    · exact gathered.reached name (Dictionary.has_eq_isSome includes name ▸ has)
  case yields =>
    intro name content get
    obtain ⟨rfl, rfl⟩ | old := found name content get
    · exact yields
    · exact gathered.yields name content old
  case root => exact gathered.root.turn first
  case inner =>
    intro name content get
    obtain ⟨rfl, rfl⟩ | old := found name content get
    · intro other member
      exact .inr (List.mem_map_of_mem (List.mem_append_right _ member))
    · exact (gathered.inner name content old).turn first

/-- Every name that has a template in the store is one of these. -/
def Lists (names : List String) (find : String → Option Template) : Prop :=
  ∀ name template, find name = some template → name ∈ names

/-- The source has templates for no names but these, and counts no fewer. -/
structure Counts (source : Source Unit) (names : List String) : Prop where
  lists : ∀ name template, (source.fetch name ()).1 = .ok template → name ∈ names
  counts : names.length ≤ source.known ()

/-- A supply that never changes always offers the same. -/
theorem Counts.counted {names : List String} (counts : Counts source names) : source.Counted :=
  fun _ => ⟨fun _ => True, names, trivial,
    fun name _ _ => ⟨trivial, fun template gives => counts.lists name template gives⟩,
    counts.counts⟩

theorem loader_counts (loader : Option Loader) (delimiters : Delimiters) (options : Options) :
    Counts (Loader.source loader delimiters options) (Loader.known loader) where
  lists _ _ fetched := Loader.mem_known fetched
  counts := (Loader.length_known loader delimiters options).le

section

variable {names : List String} (counts : Counts source names) (state : State Unit)

include counts

/-- The names at hand and those that the source has. -/
theorem Counts.lists_find : Lists (state.table.names ++ names) (state.find source) := by
  intro name template found
  rw [State.find] at found
  cases known : state.table.get? name with
  | some other =>
      have present : state.table.has name = true := by
        rw [Dictionary.has_eq_isSome, known]
        rfl
      exact List.mem_append_left _ ((Dictionary.has_iff_mem_names _ name).mp present)
  | none =>
      rw [known, Option.none_or] at found
      cases fetched : (source.fetch name ()).1 with
      | error =>
          rw [fetched] at found
          cases found
      | ok other => exact List.mem_append_right _ (counts.lists name other fetched)

theorem Counts.names_lt : (state.table.names ++ names).length <
    state.table.length + source.known state.supply + 1 := by
  rw [List.length_append, Dictionary.names, List.length_map]
  exact Nat.lt_succ_of_le (Nat.add_le_add_left counts.counts _)

end

theorem Yields.mem {names : List String} (lists : Lists names find) {name : String}
    {body : List Node} (yields : Yields options find name body) : name ∈ names := by
  obtain ⟨template, _, _, found, _⟩ := yields
  exact lists name template found

/-- There are no more included templates than names. -/
theorem Gathered.length_le {names : List String} (lists : Lists names find) {root : List Node}
    {waiting : List Inclusion} {includes : Dictionary (List Node)}
    (gathered : Gathered options find root waiting includes) : includes.length ≤ names.length := by
  have keys : includes.names.length = includes.length := List.length_map _
  rw [← keys]
  refine (gathered.distinct.subperm fun name member => ?_).length_le
  have present := (Dictionary.has_iff_mem_names includes name).mpr member
  rw [Dictionary.has_eq_isSome, Option.isSome_iff_exists] at present
  obtain ⟨body, found⟩ := present
  exact (gathered.yields name body found).mem lists

/-- With a turn for each name the loop ends when nothing waits any more. -/
theorem gather_gathered {names : List String} (lists : Lists names find) {root : List Node}
    {turns : Nat} {waiting : List Inclusion} {sources : Dictionary String}
    {includes : Dictionary (List Node)} {before after : State Unit}
    {result : Dictionary String × Dictionary (List Node)}
    (gathered : Gathered options find root waiting includes)
    (enough : names.length < turns + includes.length) (stored : before.find source = find)
    (run : gather source options turns waiting sources includes before = (.ok result, after)) :
    ∃ passed, Gathered options find root passed result.2 ∧
      ∀ next ∈ passed, result.2.has next.name = true := by
  induction turns generalizing waiting sources includes before with
  | zero =>
      have bound := gathered.length_le lists
      omega
  | succ turns ih =>
      obtain ⟨none, rfl, rfl⟩ | ⟨next, rest, included, above, between, middle, first, loaded,
        followed, run⟩ := gather_ok.mp run
      · exact ⟨waiting, gathered, has_of_pending_nil none⟩
      · have yields : Yields options find next.name above.body :=
          stored ▸ yields_iff.mp ⟨included, above, between, middle, loaded, followed, rfl⟩
        refine ih (gathered.turn first yields) ?_ ?_ run
        · rw [Dictionary.set_of_absent (pending_cons first).1, List.length_append,
            List.length_singleton]
          omega
        · rw [chain_find followed, load_find loaded, stored]

/-- If every template that is reached can be resolved, so can all of them together. -/
theorem gather_succeeds {known : String → Prop}
    (resolves : ∀ name, known name → ∃ body, Yields options find name body ∧
      ∀ next ∈ bodyInclusions body, known next.name)
    (turns : Nat) {waiting : List Inclusion} (waits : ∀ next ∈ waiting, known next.name)
    (sources : Dictionary String) (includes : Dictionary (List Node)) (before : State Unit)
    (stored : before.find source = find) :
    ∃ result after,
      gather source options turns waiting sources includes before = (.ok result, after) := by
  induction turns generalizing waiting sources includes before with
  | zero => exact ⟨(sources, includes), before, rfl⟩
  | succ turns ih =>
      cases first : pending includes waiting with
      | nil => exact ⟨_, _, gather_ok.mpr (.inl ⟨first, rfl, rfl⟩)⟩
      | cons next rest =>
          obtain ⟨_, passed, split, _⟩ := pending_cons first
          have late : ∀ other ∈ next :: rest, known other.name := fun other member =>
            waits other (split ▸ List.mem_append_right _ member)
          obtain ⟨body, yields, inside⟩ := resolves next.name (late next List.mem_cons_self)
          obtain ⟨included, above, between, middle, loaded, followed, rfl⟩ :=
            yields_iff.mpr (stored ▸ yields)
          obtain ⟨result, after, run⟩ := ih
            (List.forall_mem_append.mpr ⟨fun other member => late other
              (List.mem_cons_of_mem _ member), inside⟩)
            (sources.update above.sources) (includes.set next.name above.body) middle
            (by rw [chain_find followed, load_find loaded, stored])
          exact ⟨result, after, gather_ok.mpr (.inr
            ⟨next, rest, included, above, between, middle, first, loaded, followed, run⟩)⟩

end Templating.Resolver
