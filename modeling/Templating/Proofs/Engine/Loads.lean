import Templating.Proofs.Engine.Sessions
import Templating.Proofs.Inheritance.Resumption

/-!
What an engine asks its loader for and what the cache of compiled templates holds of it: every name
that a resolver needs is asked for once at most, and what it made of the templates can be made again
of the cache alone.
-/

namespace Templating

open Resolver

namespace Source

/-- The templates in a cache, and no others, as the supply of a resolver. -/
def ofCache (compiled : Cache String (Stored Template)) : Source Unit where
  fetch name _ :=
    match compiled.get? name with
    | some stored => (.ok stored.content, ())
    | none => (.error .notFound, ())
  known _ := compiled.size

variable {compiled : Cache String (Stored Template)}

theorem ofCache_fetch_ok {name : String} {template : Template} :
    ((ofCache compiled).fetch name ()).1 = .ok template ↔
      ∃ stored, compiled.get? name = some stored ∧ stored.content = template := by
  unfold ofCache
  dsimp only
  cases compiled.get? name with
  | none => simp
  | some stored => simp

theorem ofCache_fetch {name : String} {stored : Stored Template}
    (found : compiled.get? name = some stored) :
    (ofCache compiled).fetch name () = (.ok stored.content, ()) :=
  Prod.ext (ofCache_fetch_ok.mpr ⟨stored, found, rfl⟩) rfl

theorem ofCache_counts (compiled : Cache String (Stored Template)) :
    Counts (ofCache compiled) (Dictionary.names compiled.entries) where
  lists name template fetched := by
    obtain ⟨stored, found, _⟩ := ofCache_fetch_ok.mp fetched
    rw [← Dictionary.has_iff_mem_names, Dictionary.has_eq_isSome]
    exact Option.isSome_iff_exists.mpr ⟨stored, found⟩
  counts := (List.length_map _).le

/-- A cache, and one that has all its entries. -/
def resumption {more : Cache String (Stored Template)}
    (retains : ∀ name stored, compiled.get? name = some stored → more.get? name = some stored) :
    Resumption Unit Unit where
  source := ofCache compiled
  later := ofCache more
  steps _ _ := True
  ends _ _ := True
  stepsLater _ _ := True
  endsLater _ _ := True
  good _ := True
  left := ()
  moves := .any _
  movesLater := .any _
  back _ _ := trivial
  stocked := by
    intro name _ _ template fetch _
    obtain ⟨stored, found, rfl⟩ := ofCache_fetch_ok.mp (congrArg Prod.fst fetch)
    exact ofCache_fetch (retains name stored found)

end Source

/-- The templates in the cache suffice to resolve the name, and this is what they give. -/
def Cache.Resolves (compiled : Cache String (Stored Template)) (options : Options) (name : String)
    (resolved : Resolved) : Prop :=
  (named (.ofCache compiled) options name { table := [], supply := () }).1 = .ok resolved

/-- A name that is resolved has a template in the cache. -/
theorem Cache.Resolves.cached {compiled : Cache String (Stored Template)} {options : Options}
    {name : String} {resolved : Resolved} (resolves : compiled.Resolves options name resolved) :
    compiled.get? name ≠ none := by
  intro uncached
  have missing : (Source.ofCache compiled).fetch name () = (.error .notFound, ()) := by
    unfold Source.ofCache
    dsimp only
    rw [uncached]
  rw [Cache.Resolves, named, Run.bind_ok (load_missing rfl missing)] at resolves
  cases resolves

namespace Session

/-- The loader was asked for these names, none of which was in the cache of compiled templates; what
could be compiled of its answers is in the cache now, and nothing else is new there. -/
structure Loads (loader : Option Loader) (delimiters : Delimiters) (options : Options)
    (names : List String) (before after : Session) : Prop where
  asked : after.asked = before.asked ++ names
  distinct : names.Nodup
  fresh : ∀ name ∈ names, before.compiled.get? name = none
  kept : ∀ name, name ∉ names → after.compiled.get? name = before.compiled.get? name
  filled : ∀ name ∈ names, (after.compiled.get? name).map (·.content) =
    ((Loader.source loader delimiters options).fetch name ()).1.toOption

/-- All these names have templates in the cache. -/
def Caches (session : Session) (names : List String) : Prop :=
  ∀ name ∈ names, session.compiled.get? name ≠ none

variable {loader : Option Loader} {delimiters : Delimiters} {options : Options}
  {names others : List String} {before between after : Session}

theorem keeping_get? (session : Session) {name : String} (template : Template)
    (uncached : session.compiled.get? name = none) :
    (session.keeping name template).compiled.get? name = some ⟨session.serial, template⟩ := by
  refine (Cache.get?_fill _ name name _).trans ?_
  rw [uncached, if_pos rfl]
  rfl

namespace Loads

theorem refl (session : Session) : Loads loader delimiters options [] session session where
  asked := (List.append_nil _).symm
  distinct := List.nodup_nil
  fresh := List.forall_mem_nil _
  kept _ _ := rfl
  filled := List.forall_mem_nil _

/-- Only the compiled templates and the names asked for count. -/
theorem congr {other : Session} (loads : Loads loader delimiters options names before after)
    (compiled : other.compiled = after.compiled) (asked : other.asked = after.asked) :
    Loads loader delimiters options names before other where
  asked := asked.trans loads.asked
  distinct := loads.distinct
  fresh := loads.fresh
  kept := compiled ▸ loads.kept
  filled := compiled ▸ loads.filled

theorem retains (loads : Loads loader delimiters options names before after) {name : String}
    {stored : Stored Template} (found : before.compiled.get? name = some stored) :
    after.compiled.get? name = some stored := by
  rw [loads.kept name fun asked => ?_, found]
  rw [loads.fresh name asked] at found
  cases found

/-- What is asked for after loads that all succeeded was not asked for in them. -/
theorem disjoint (cached : between.Caches names)
    (second : Loads loader delimiters options others between after) {name : String}
    (asked : name ∈ others) : name ∉ names :=
  fun earlier => cached name earlier (second.fresh name asked)

theorem trans (first : Loads loader delimiters options names before between)
    (cached : between.Caches names)
    (second : Loads loader delimiters options others between after) :
    Loads loader delimiters options (names ++ others) before after where
  asked := by rw [second.asked, first.asked, List.append_assoc]
  distinct := List.nodup_append'.mpr ⟨first.distinct, second.distinct,
    fun _ earlier asked => disjoint cached second asked earlier⟩
  fresh := List.forall_mem_append.mpr ⟨first.fresh, fun name asked =>
    (first.kept name (disjoint cached second asked)).symm.trans (second.fresh name asked)⟩
  kept name unasked := by
    obtain ⟨notFirst, notSecond⟩ := not_or.mp (List.mem_append.not.mp unasked)
    rw [second.kept name notSecond, first.kept name notFirst]
  filled := by
    refine List.forall_mem_append.mpr ⟨fun name asked => ?_, second.filled⟩
    rw [second.kept name fun again => disjoint cached second again asked]
    exact first.filled name asked

/-- What is new in the cache has a name that the loader knows. -/
theorem cached_of_known (loads : Loads loader delimiters options names before after) {name : String}
    (cached : after.compiled.get? name ≠ none) :
    before.compiled.get? name ≠ none ∨ name ∈ Loader.known loader := by
  by_cases asked : name ∈ names
  · obtain ⟨stored, found⟩ := Option.ne_none_iff_exists'.mp cached
    have filled := loads.filled name asked
    rw [found] at filled
    exact .inr (Loader.mem_known (Outcome.toOption_eq_some.mp filled.symm))
  · rw [loads.kept name asked] at cached
    exact .inl cached

theorem missing {name : String} {failure : FetchFailure}
    (uncached : before.compiled.get? name = none)
    (fails : ((Loader.source loader delimiters options).fetch name ()).1 = .error failure) :
    Loads loader delimiters options (asks loader name) before (before.asking loader name) where
  asked := rfl
  distinct := by cases loader <;> simp [asks]
  fresh other asked := by
    obtain ⟨_, _, rfl⟩ := List.mem_map.mp asked
    exact uncached
  kept _ _ := rfl
  filled other asked := by
    obtain ⟨_, _, rfl⟩ := List.mem_map.mp asked
    rw [fails]
    exact congrArg (Option.map _) uncached

/-- A loader that gives a template was asked for it. -/
theorem asks_of_fetch {name : String} {template : Template}
    (gives : ((Loader.source loader delimiters options).fetch name ()).1 = .ok template) :
    asks loader name = [name] := by
  obtain ⟨text, loaded, _⟩ := Loader.source_fetch_ok.mp gives
  cases loader with
  | none => cases loaded
  | some loader => rfl

theorem found {name : String} {template : Template}
    (uncached : before.compiled.get? name = none)
    (gives : ((Loader.source loader delimiters options).fetch name ()).1 = .ok template) :
    Loads loader delimiters options (asks loader name) before
      ((before.asking loader name).keeping name template) where
  asked := rfl
  distinct := by
    rw [asks_of_fetch gives]
    exact List.nodup_singleton name
  fresh other asked := by
    obtain ⟨_, _, rfl⟩ := List.mem_map.mp asked
    exact uncached
  kept other unasked := by
    rw [asks_of_fetch gives, List.mem_singleton] at unasked
    refine (Cache.get?_fill _ name other _).trans ?_
    rw [if_neg unasked, Option.or_none]
    rfl
  filled other asked := by
    obtain ⟨_, _, rfl⟩ := List.mem_map.mp asked
    rw [gives, keeping_get? (before.asking loader name) template uncached]
    rfl

/-- Templates that are cached stay so. -/
theorem caches (cached : before.Caches names)
    (loads : Loads loader delimiters options others before after) : after.Caches names := by
  intro name member
  obtain ⟨stored, found⟩ := Option.ne_none_iff_exists'.mp (cached name member)
  rw [loads.retains found]
  exact Option.some_ne_none stored

end Loads

/-- Some names were loaded, and what is resolved stayed as it was. -/
def Advances (loader : Option Loader) (delimiters : Delimiters) (options : Options)
    (before after : Session) : Prop :=
  ∃ names, Loads loader delimiters options names before after ∧ after.resolved = before.resolved

/-- All of them were loaded with success. -/
def Progresses (loader : Option Loader) (delimiters : Delimiters) (options : Options)
    (before after : Session) : Prop :=
  ∃ names, Loads loader delimiters options names before after ∧
    after.resolved = before.resolved ∧ after.Caches names

end Session

/-- Loading more templates does not change what the ones in the cache give. -/
theorem Cache.Resolves.mono {loader : Option Loader} {delimiters : Delimiters} {options : Options}
    {names : List String} {before after : Session} {name : String} {resolved : Resolved}
    (resolves : before.compiled.Resolves options name resolved)
    (loads : before.Loads loader delimiters options names after) :
    after.compiled.Resolves options name resolved := by
  have resumes := (Source.resumption fun _ _ => loads.retains).named_resumes
    (Source.ofCache_counts before.compiled).counted (Source.ofCache_counts after.compiled).counted
    options name
  exact congrArg Prod.fst (resumes.done (Prod.ext resolves rfl) trivial)

namespace Engine

open Session

variable {engine : Engine} {loader : Option Loader} {name : String}

/-- A template is loaded if it is not cached; if this succeeds, it is cached. -/
theorem getTemplate_loads (engine : Engine) (loader : Option Loader) (name : String)
    (session : Session) :
    ∃ names, session.Loads loader engine.delimiters engine.options names
        (engine.getTemplate loader name session).2 ∧
      ∀ stored, (engine.getTemplate loader name session).1 = .ok stored →
        (engine.getTemplate loader name session).2.compiled.get? name = some stored ∧
          (engine.getTemplate loader name session).2.Caches names := by
  cases cached : session.compiled.get? name with
  | some stored =>
      rw [getTemplate_cached cached]
      refine ⟨[], .refl session, fun _ same => ?_⟩
      cases same
      exact ⟨cached, List.forall_mem_nil _⟩
  | none =>
      rw [getTemplate_uncached cached]
      cases fetch : ((Loader.source loader engine.delimiters engine.options).fetch name ()).1 with
      | error failure => exact ⟨_, .missing cached fetch, fun _ same => by cases same⟩
      | ok template =>
          have keeps := keeping_get? (session.asking loader name) template cached
          refine ⟨_, .found cached fetch, fun _ same => ?_⟩
          cases same
          refine ⟨keeps, fun other asked => ?_⟩
          rw [Loads.asks_of_fetch fetch, List.mem_singleton] at asked
          rw [asked, keeps]
          exact Option.some_ne_none _

theorem fetched_eq_ok {outcome : Except Failure (Stored Template)} {template : Template} :
    fetched outcome = .ok template ↔ ∃ stored, outcome = .ok stored ∧ stored.content = template := by
  rcases outcome with (_ | _ | _) | stored <;> simp [fetched]

theorem source_fetch_eq (engine : Engine) (loader : Option Loader) (name : String)
    (session : Session) :
    (engine.source loader).fetch name session =
      (fetched (engine.getTemplate loader name session).1,
        (engine.getTemplate loader name session).2) :=
  rfl

/-- Fetching templates moves a session on. -/
theorem source_moves (engine : Engine) (loader : Option Loader) :
    Moves (engine.source loader) (Progresses loader engine.delimiters engine.options)
      (Advances loader engine.delimiters engine.options) where
  refl session := ⟨[], .refl session, rfl, List.forall_mem_nil _⟩
  trans := by
    rintro first second third ⟨names, loads, same, cached⟩ ⟨others, further, sameThen, cachedThen⟩
    exact ⟨_, loads.trans cached further, sameThen.trans same,
      List.forall_mem_append.mpr ⟨Loads.caches cached further, cachedThen⟩⟩
  whole := fun ⟨names, loads, same, _⟩ => ⟨names, loads, same⟩
  last := fun ⟨_, loads, same, cached⟩ ⟨_, further, sameThen⟩ =>
    ⟨_, loads.trans cached further, sameThen.trans same⟩
  fetch := by
    intro name supply
    have same := engine.getTemplate_resolved loader name supply
    obtain ⟨names, loads, succeeds⟩ := engine.getTemplate_loads loader name supply
    refine ⟨⟨names, loads, same⟩, fun template ok => ⟨names, loads, same, ?_⟩⟩
    obtain ⟨stored, result, _⟩ := fetched_eq_ok.mp ok
    exact (succeeds stored result).2

/-- What an engine fetched stays in the cache as long as names are loaded, so that a source that has
the cache at hand has it as well. -/
def resumption {τ : Type} (engine : Engine) (loader : Option Loader) (final : Session)
    (later : Source τ) (left : τ) {steps ends : τ → τ → Prop} (moves : Moves later steps ends)
    (has : ∀ name stored, final.compiled.get? name = some stored →
      later.fetch name left = (.ok stored.content, left)) : Resumption Session τ where
  source := engine.source loader
  later := later
  steps := Progresses loader engine.delimiters engine.options
  ends := Advances loader engine.delimiters engine.options
  stepsLater := steps
  endsLater := ends
  good session := ∃ names, Loads loader engine.delimiters engine.options names session final
  left := left
  moves := engine.source_moves loader
  movesLater := moves
  back := fun ⟨_, loads, _, cached⟩ ⟨_, further⟩ => ⟨_, loads.trans cached further⟩
  stocked := by
    rintro name supply template after fetch ⟨_, further⟩
    rw [source_fetch_eq] at fetch
    obtain ⟨ok, rfl⟩ := Prod.mk.inj fetch
    obtain ⟨_, _, succeeds⟩ := engine.getTemplate_loads loader name supply
    obtain ⟨stored, result, rfl⟩ := fetched_eq_ok.mp ok
    exact has name stored (further.retains (succeeds stored result).1)

/-- An engine has templates for the names in its cache and for those of its loader. -/
theorem source_counted (engine : Engine) (loader : Option Loader) :
    (engine.source loader).Counted := by
  intro session
  refine ⟨fun other => ∀ name, other.compiled.get? name ≠ none →
    name ∈ Dictionary.names session.compiled.entries ++ Loader.known loader,
    Dictionary.names session.compiled.entries ++ Loader.known loader, ?_, ?_, ?_⟩
  · intro name cached
    refine List.mem_append_left _ ((Dictionary.has_iff_mem_names _ name).mp ?_)
    rw [Dictionary.has_eq_isSome]
    exact Option.isSome_iff_ne_none.mpr cached
  · intro name supply kept
    obtain ⟨names, loads, succeeds⟩ := engine.getTemplate_loads loader name supply
    have keptThen : ∀ other, (engine.getTemplate loader name supply).2.compiled.get? other ≠ none →
        other ∈ Dictionary.names session.compiled.entries ++ Loader.known loader := by
      intro other cached
      obtain old | known := loads.cached_of_known cached
      · exact kept other old
      · exact List.mem_append_right _ known
    refine ⟨keptThen, fun template gives => keptThen name ?_⟩
    obtain ⟨stored, result, _⟩ := fetched_eq_ok.mp gives
    rw [(succeeds stored result).1]
    exact Option.some_ne_none stored
  · rw [List.length_append, Dictionary.names, List.length_map,
      Loader.length_known loader engine.delimiters engine.options]
    exact Nat.le_refl _

/-- What is resolved from an engine's templates is resolved from those that are cached then. -/
theorem named_resolves {resolved : Resolved} {before : Session} {after : State Session}
    (run : named (engine.source loader) engine.options name { table := [], supply := before } =
      (.ok resolved, after)) :
    after.supply.compiled.Resolves engine.options name resolved := by
  have resumes := (engine.resumption loader after.supply (.ofCache after.supply.compiled) ()
    (.any _) fun _ _ => Source.ofCache_fetch).named_resumes (engine.source_counted loader)
      (Source.ofCache_counts after.supply.compiled).counted engine.options name
  exact congrArg Prod.fst (resumes.done run ⟨[], .refl after.supply⟩)

end Engine

end Templating
