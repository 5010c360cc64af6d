import Mathlib.Data.List.Infix
import Templating.Scope.Family

/-!
What becomes of a scope when names are set in a scope that is derived from it. A frame that is
opened later has a number of its own, so as long as the derived scope writes only such frames, every
scope that was there before shows what it showed. Leaving its own frames exposes those that it
shares.
-/

namespace Templating

/-- What can be done to one scope. -/
inductive ScopeStep where
  | set (name : String) (value : Value)
  | push (frame : Frame)
  | pop

/-- Each name is set while a frame is left that the scope opened by itself; there are so many of them
at first. -/
def ScopeStep.SetOwn : Nat → List ScopeStep → Prop
  | _, [] => True
  | own, set _ _ :: rest => 0 < own ∧ SetOwn own rest
  | own, push _ :: rest => SetOwn (own + 1) rest
  | own, pop :: rest => SetOwn (own - 1) rest

namespace ScopeFamily

variable {family before now : ScopeFamily} {scope other own limit : Nat} {frames : List Nat}

/-- A scope that is left where that is refused stays as it is. -/
def step (family : ScopeFamily) (scope : Nat) : ScopeStep → ScopeFamily
  | .set name value => family.set scope name value
  | .push frame => family.push scope frame
  | .pop => ((family.pop? scope).map (·.2)).getD family

def run (family : ScopeFamily) (scope : Nat) (steps : List ScopeStep) : ScopeFamily :=
  steps.foldl (fun family step => family.step scope step) family

theorem framesOf_withFrames_self (known : scope < family.size) (frames : List Nat) :
    (family.withFrames scope frames).framesOf scope = frames := by
  have known : scope < family.scopes.length := known
  simp [framesOf, withFrames, known]

theorem framesOf_withFrames_other (different : other ≠ scope) (frames : List Nat) :
    (family.withFrames scope frames).framesOf other = family.framesOf other := by
  simp [framesOf, withFrames, List.getElem?_set_ne different.symm]

theorem framesOf_mem (known : scope < family.size) : family.framesOf scope ∈ family.scopes := by
  have known : scope < family.scopes.length := known
  simp [framesOf, known]

theorem lt_size_of_framesOf (some : family.framesOf scope ≠ []) : scope < family.size := by
  by_contra beyond
  have absent : family.scopes[scope]? = none := List.getElem?_eq_none (Nat.le_of_not_lt beyond)
  simp [framesOf, absent] at some

theorem framesOf_derive (known : other < family.size) (origin : Nat) (values : Frame) :
    (family.derive origin values).framesOf other = family.framesOf other := by
  have known : other < family.scopes.length := known
  simp [framesOf, derive, List.getElem?_append_left known]

theorem framesOf_derive_self (family : ScopeFamily) (origin : Nat) (values : Frame) :
    (family.derive origin values).framesOf family.size =
      family.frames.length :: family.framesOf origin := by
  simp [framesOf, derive, size]

theorem framesOf_of_scopes_eq (same : now.scopes = before.scopes) :
    now.framesOf scope = before.framesOf scope := by
  rw [framesOf, framesOf, same]

@[simp] theorem scopes_set (family : ScopeFamily) (scope : Nat) (name : String) (value : Value) :
    (family.set scope name value).scopes = family.scopes := by
  unfold set
  split <;> rfl

/-- There is a frame, and every frame has a number below the limit. -/
def Lists (limit : Nat) (frames : List Nat) : Prop :=
  frames ≠ [] ∧ ∀ number ∈ frames, number < limit

theorem Lists.mono (lists : Lists limit frames) {more : Nat} (atMost : limit ≤ more) :
    Lists more frames :=
  ⟨lists.1, fun number member => (lists.2 number member).trans_le atMost⟩

theorem Lists.cons (lists : Lists limit frames) : Lists (limit + 1) (limit :: frames) := by
  refine ⟨List.cons_ne_nil _ _, fun number member => ?_⟩
  obtain rfl | listed := List.mem_cons.mp member
  · exact Nat.lt_succ_self _
  · exact (lists.2 number listed).trans (Nat.lt_succ_self _)

theorem Lists.tail {inner : Nat} (lists : Lists limit (inner :: frames)) (some : frames ≠ []) :
    Lists limit frames :=
  ⟨some, fun number member => lists.2 number (List.mem_cons_of_mem _ member)⟩

/-- Every scope has a frame, and all frames that it lists are there. -/
def Sound (family : ScopeFamily) : Prop :=
  ∀ frames ∈ family.scopes, Lists family.frames.length frames

namespace Sound

theorem framesOf (sound : family.Sound) (known : scope < family.size) :
    Lists family.frames.length (family.framesOf scope) :=
  sound _ (framesOf_mem known)

theorem empty : Sound {} :=
  List.forall_mem_nil _

/-- A new frame and a new scope that has it. -/
theorem append (sound : family.Sound) (frame : Frame)
    (lists : Lists (family.frames.length + 1) frames) :
    Sound { frames := family.frames ++ [frame], scopes := family.scopes ++ [frames] } := by
  intro listed member
  rw [List.length_append, List.length_singleton]
  obtain old | new := List.mem_append.mp member
  · exact (sound listed old).mono (Nat.le_succ _)
  · cases List.mem_singleton.mp new
    exact lists

theorem create (sound : family.Sound) (frame : Frame) : (family.create frame).Sound :=
  sound.append frame ⟨List.cons_ne_nil _ _, by simp⟩

theorem derive (sound : family.Sound) (known : scope < family.size) (frame : Frame) :
    (family.derive scope frame).Sound :=
  sound.append frame (sound.framesOf known).cons

theorem withFrames (sound : family.Sound) (lists : Lists family.frames.length frames) :
    (family.withFrames scope frames).Sound := by
  intro listed member
  obtain old | new := List.mem_or_eq_of_mem_set member
  · exact sound listed old
  · rw [new]
    exact lists

theorem step (sound : family.Sound) (known : scope < family.size) (step : ScopeStep) :
    (family.step scope step).Sound := by
  have lists := sound.framesOf known
  cases step with
  | set name value =>
      show (family.set scope name value).Sound
      intro listed member
      rw [scopes_set] at member
      unfold ScopeFamily.set
      split <;> simpa using sound listed member
  | push frame =>
      refine withFrames (fun listed member => ?_) ?_
      · simpa using (sound listed member).mono (Nat.le_succ _)
      · simpa using lists.cons
  | pop =>
      simp only [ScopeFamily.step, pop?]
      split
      case h_1 inner next rest several =>
        rw [several] at lists
        exact sound.withFrames (lists.tail (List.cons_ne_nil _ _))
      case h_2 => exact sound

end Sound

/-- The scope after the last one of the earlier family is derived from one of them: it has so many
frames of its own over frames that it shares, and nothing else has changed. -/
structure Derived (before now : ScopeFamily) (own : Nat) : Prop where
  kept : before.frames <+: now.frames
  others : ∀ scope < before.size, now.framesOf scope = before.framesOf scope
  stack : ∃ fresh shared, now.framesOf before.size = fresh ++ shared ∧ fresh.length = own ∧
    shared ≠ [] ∧ ∀ number ∈ fresh, before.frames.length ≤ number

namespace Derived

theorem known (derived : Derived before now own) : before.size < now.size := by
  obtain ⟨fresh, shared, frames, _, some, _⟩ := derived.stack
  exact lt_size_of_framesOf (by simp [frames, some])

theorem ofOrigin (sound : family.Sound) {origin : Nat} (known : origin < family.size)
    (values : Frame) : Derived family (family.derive origin values) 1 where
  kept := List.prefix_append _ _
  others scope listed := framesOf_derive listed origin values
  stack := ⟨[family.frames.length], family.framesOf origin, framesOf_derive_self family origin values,
    rfl, (sound.framesOf known).1, by simp⟩

/-- The scope that is derived lists other frames; every other scope lists those that it did. -/
theorem withFrames (derived : Derived before now own) {left : Nat} {fresh shared : List Nat}
    (count : fresh.length = left) (some : shared ≠ [])
    (new : ∀ number ∈ fresh, before.frames.length ≤ number) :
    Derived before (now.withFrames before.size (fresh ++ shared)) left where
  kept := derived.kept
  others scope listed := by
    rw [framesOf_withFrames_other listed.ne]
    exact derived.others scope listed
  stack := ⟨fresh, shared, framesOf_withFrames_self derived.known _, count, some, new⟩

theorem set (derived : Derived before now own) (some : 0 < own) (name : String) (value : Value) :
    Derived before (now.set before.size name value) own := by
  obtain ⟨fresh, shared, frames, count, exposed, new⟩ := derived.stack
  have kept : before.frames <+: (now.set before.size name value).frames := by
    cases fresh with
    | nil => exact absurd count some.ne
    | cons inner rest =>
        have beyond := new inner List.mem_cons_self
        obtain ⟨later, same⟩ := derived.kept
        simp only [ScopeFamily.set, frames, List.cons_append, ← same]
        rw [List.set_append_right _ _ beyond]
        exact List.prefix_append _ _
  have scopes : ∀ {scope}, (now.set before.size name value).framesOf scope = now.framesOf scope :=
    framesOf_of_scopes_eq (scopes_set ..)
  exact ⟨kept, fun scope listed => scopes.trans (derived.others scope listed),
    fresh, shared, scopes.trans frames, count, exposed, new⟩

theorem push (derived : Derived before now own) (frame : Frame) :
    Derived before (now.push before.size frame) (own + 1) := by
  obtain ⟨fresh, shared, frames, count, exposed, new⟩ := derived.stack
  have longer : Derived before { now with frames := now.frames ++ [frame] } own :=
    ⟨derived.kept.trans (List.prefix_append _ _), derived.others, derived.stack⟩
  rw [ScopeFamily.push, frames, ← List.cons_append]
  refine longer.withFrames (by simp [count]) exposed fun number member => ?_
  obtain rfl | listed := List.mem_cons.mp member
  · exact derived.kept.length_le
  · exact new number listed

theorem pop (derived : Derived before now own) :
    Derived before (now.step before.size .pop) (own - 1) := by
  obtain ⟨fresh, shared, frames, count, exposed, new⟩ := derived.stack
  simp only [step, pop?]
  cases fresh with
  | nil =>
      cases count
      split
      case h_1 inner next rest several =>
        have left : Derived before (now.withFrames before.size ([] ++ next :: rest)) 0 :=
          derived.withFrames rfl (List.cons_ne_nil next rest) (List.forall_mem_nil _)
        exact left
      case h_2 => exact derived
  | cons inner rest =>
      obtain ⟨next, others, several⟩ := List.exists_cons_of_ne_nil
        (List.append_ne_nil_of_right_ne_nil rest exposed)
      rw [frames, List.cons_append, several]
      dsimp only [Option.map_some, Option.getD_some]
      rw [← several]
      exact derived.withFrames (by simp [← count]) exposed fun number listed =>
        new number (List.mem_cons_of_mem _ listed)

theorem run (derived : Derived before now own) {steps : List ScopeStep}
    (sets : ScopeStep.SetOwn own steps) : ∃ left, Derived before (now.run before.size steps) left := by
  induction steps generalizing now own with
  | nil => exact ⟨own, derived⟩
  | cons step rest ih =>
      cases step with
      | set name value => exact ih (derived.set sets.1 name value) sets.2
      | push frame => exact ih (derived.push frame) sets
      | pop => exact ih derived.pop sets

theorem view (derived : Derived before now own) (sound : before.Sound)
    (known : scope < before.size) : now.view scope = before.view scope := by
  have frame : ∀ number ∈ before.framesOf scope, now.frame number = before.frame number := by
    intro number listed
    have early := (sound.framesOf known).2 number listed
    obtain ⟨later, same⟩ := derived.kept
    rw [ScopeFamily.frame, ScopeFamily.frame, ← same, List.getElem?_append_left early]
  have frames : (before.framesOf scope).reverse.map now.frame =
      (before.framesOf scope).reverse.map before.frame :=
    List.map_congr_left fun number listed => frame number (List.mem_reverse.mp listed)
  rw [ScopeFamily.view, ScopeFamily.view, derived.others scope known, frames]

end Derived

/-- Whatever is done to a derived scope, its origin keeps all its frames and what they hold, if names
are set only in frames that the derived scope opened by itself. -/
theorem view_origin (sound : family.Sound) {origin : Nat} (known : origin < family.size)
    (values : Frame) {steps : List ScopeStep} (sets : ScopeStep.SetOwn 1 steps) :
    ((family.derive origin values).run family.size steps).view origin = family.view origin := by
  obtain ⟨left, derived⟩ := (Derived.ofOrigin sound known values).run sets
  exact derived.view sound known

/-- A name is set in the derived scope's first frame and in one opened later, and the scope is then
left as far as the frames that it shares. -/
theorem view_origin_left :
    let family := create {} [("a", .int 1)]
    let steps := [.push [], .set "a" (.int 2), .pop, .set "b" (.int 3), .pop]
    family.Sound ∧ 0 < family.size ∧ ScopeStep.SetOwn 1 steps ∧
      ((family.derive 0 []).run family.size steps).view 0 = family.view 0 := by
  have sound := Sound.empty.create [("a", .int 1)]
  have sets : ScopeStep.SetOwn 1
      [.push [], .set "a" (.int 2), .pop, .set "b" (.int 3), .pop] := by simp [ScopeStep.SetOwn]
  exact ⟨sound, by decide, sets, view_origin sound (by decide) [] sets⟩

/-- A derived scope may leave its own frame; what it sets then is set for its origin. -/
theorem view_origin_exposed : ¬ ∀ (family : ScopeFamily) (origin : Nat) (values : Frame)
    (steps : List ScopeStep), family.Sound → origin < family.size →
      ((family.derive origin values).run family.size steps).view origin = family.view origin := by
  intro all
  have same := all (create {} [("a", .int 1)]) 0 [] [.pop, .set "a" (.int 2)]
    (Sound.empty.create _) (by decide)
  have rebound : some (Value.int 2) = some (Value.int 1) := congrArg (Scope.lookup? · "a") same
  simp at rebound

end ScopeFamily

end Templating
