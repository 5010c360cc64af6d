import Templating.Inheritance
import Templating.Proofs.Limits.Curtails

/-!
Two resolvings of one template, the first from a source or under options that refuse more: it ends as
the second one and leaves the same behind, unless it is cut off by a fault of its own kind.
-/

namespace Templating.Resolver

open Run (Curtails)

variable {σ : Type}

/-- The first source gives what the second one gives, or a fault of its own. -/
structure SourceCurtails (cut : Fault → Prop) (source other : Source σ) : Prop where
  fetch : ∀ name supply, source.fetch name supply = other.fetch name supply ∨
    ∃ fault after, source.fetch name supply = (.error (.fault fault), after) ∧ cut fault
  known : ∀ supply, source.known supply = other.known supply

theorem SourceCurtails.refl (cut : Fault → Prop) (source : Source σ) :
    SourceCurtails cut source source :=
  ⟨fun _ _ => .inl rfl, fun _ => rfl⟩

/-- Under the first options everything is overridden as under the second ones or refused in a way of
its own, and so are chains that are too long. -/
structure OptionsCurtail (σ : Type) (cut : Fault → Prop) (first second : Options) : Prop where
  override : ∀ child parentName parentBody,
    Curtails cut (override first.override child parentName parentBody : Resolving σ (List Node))
      (override second.override child parentName parentBody)
  depth : first.depth = second.depth ∨
    first.depth ≤ second.depth ∧ ∀ visited template, cut (lengthFault first.depth visited template)

section

variable {cut : Fault → Prop} {source other : Source σ} (curtails : SourceCurtails cut source other)

include curtails

theorem load_curtails (name : String) : Curtails cut (load source name) (load other name) := by
  intro before
  rw [load, load, Run.get_bind, Run.get_bind]
  cases before.table.get? name with
  | some template => exact .inr rfl
  | none =>
      rcases curtails.fetch name before.supply with same | ⟨fault, after, fails, allowed⟩
      · rw [same]
        exact .inr rfl
      · rw [fails]
        exact .inl ⟨fault, { before with supply := after }, rfl, allowed⟩

theorem loadReferenced_curtails (name : String) (referrer : Option Template)
    (position : Option Position) :
    Curtails cut (loadReferenced source name referrer position)
      (loadReferenced other name referrer position) :=
  (load_curtails curtails name).bind fun _ => .refl _

variable {first second : Options} (options : OptionsCurtail σ cut first second)

include options

/-- By induction on the templates that may follow: as many in both, or fewer in the first. -/
theorem chain_curtails {left further : Nat}
    (room : left = further ∧ first.depth = second.depth ∨
      left ≤ further ∧ ∀ visited template, cut (lengthFault first.depth visited template))
    (visited : List String) (template : Template) :
    Curtails cut (chain source first visited left template)
      (chain other second visited further template) := by
  induction left generalizing further visited template with
  | zero =>
      rw [chain.eq_def source, chain.eq_def other]
      refine .ite (.refl _) ?_
      rcases room with ⟨rfl, same⟩ | ⟨_, tooLong⟩
      · rw [same]
        exact .refl _
      · exact .throw (tooLong visited template)
  | succ left ih =>
      cases further with
      | zero => exact (by omega : False).elim
      | succ further =>
          have inside : left = further ∧ first.depth = second.depth ∨
              left ≤ further ∧ ∀ visited template, cut (lengthFault first.depth visited template) :=
            room.imp (.imp_left Nat.succ.inj) (.imp_left Nat.le_of_succ_le_succ)
          rw [chain.eq_def source, chain.eq_def other]
          refine .ite (.refl _) ?_
          dsimp only
          cases template.parent? with
          | none => exact .refl _
          | some parentName =>
              refine (loadReferenced_curtails curtails _ _ _).bind fun parent => ?_
              refine (ih inside _ parent).bind fun above => ?_
              exact (options.override template parentName above.body).bind fun _ => .refl _

theorem wholeChain_curtails (template : Template) :
    Curtails cut (chain source first [] first.depth template)
      (chain other second [] second.depth template) :=
  chain_curtails curtails options (options.depth.imp_left fun same => ⟨same, same⟩) [] template

theorem gather_curtails (turns : Nat) (waiting : List Node.Inclusion)
    (sources : Dictionary String) (includes : Dictionary (List Node)) :
    Curtails cut (gather source first turns waiting sources includes)
      (gather other second turns waiting sources includes) := by
  induction turns generalizing waiting sources includes with
  | zero => exact .refl _
  | succ turns ih =>
      rw [gather, gather]
      cases waiting.dropWhile fun next => includes.has next.name with
      | nil => exact .refl _
      | cons next rest =>
          refine .after _ fun state => ?_
          refine (loadReferenced_curtails curtails _ _ _).bind fun included => ?_
          refine (wholeChain_curtails curtails options included).bind fun resolved => ?_
          exact ih _ _ _

theorem template_curtails (main : Template) :
    Curtails cut (template source first main) (template other second main) := by
  rw [template, template]
  refine .after _ fun _ => ?_
  refine (wholeChain_curtails curtails options main).bind fun above => ?_
  refine .after _ fun state => ?_
  rw [curtails.known]
  exact (gather_curtails curtails options _ _ _ _).bind fun gathered => .refl _

theorem named_curtails (name : String) :
    Curtails cut (named source first name) (named other second name) := by
  refine (load_curtails curtails name).bind fun found => ?_
  cases found with
  | none => exact .refl _
  | some main => exact template_curtails curtails options main

end

end Templating.Resolver
