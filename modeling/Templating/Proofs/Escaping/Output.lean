import Mathlib
import Templating.Proofs.Escaping.Rendering
import Templating.Proofs.Grammar.ParsedTemplate
import Templating.Proofs.Loader

/-!
No markup gets into the output unescaped: with escaping on, a template of clean texts that declares
nothing safe renders values without safe strings to clean text.
-/

namespace Templating

theorem Template.IsCompiled.plain {template : Template} (compiled : template.IsCompiled) :
    template.Every (fun _ => True) Expr.PlainLiterals := by
  obtain ⟨_, _, _, _, same⟩ := compiled
  exact (isRead_of_compile same).faithful.plain

/-- The filter that declares text safe is never applied. -/
def Expr.NeverSafe : Expr → Prop :=
  Every (fun _ => True) (· ≠ "safe")

theorem Loader.source_supplies (loader : Option Loader) (delimiters : Delimiters)
    (options : Options) : (Loader.source loader delimiters options).Supplies Template.IsCompiled := by
  intro name supply after template fetched
  unfold Loader.source at fetched
  dsimp only at fetched
  split at fetched
  · cases fetched
  · split at fetched
    case h_1 compiled =>
      cases fetched
      exact ⟨_, _, _, _, compiled⟩
    case h_2 => cases fetched

namespace Resolved

/-- Put together from compiled templates, by name or from a template at hand. -/
structure IsBuilt {σ : Type} (source : Source σ) (before : Resolver.State σ) (resolved : Resolved) :
    Prop where
  supplies : source.Supplies Template.IsCompiled
  table : before.Each Template.IsCompiled
  resolves : ∃ options after,
    (∃ name, Resolver.named source options name before = (.ok resolved, after)) ∨
      ∃ main : Template, main.IsCompiled ∧
        Resolver.template source options main before = (.ok resolved, after)

theorem IsBuilt.plain {σ : Type} {source : Source σ} {before : Resolver.State σ}
    {resolved : Resolved} (built : resolved.IsBuilt source before) :
    resolved.Every (fun _ => True) Expr.PlainLiterals := by
  have supplies : source.Supplies (Template.Every (fun _ => True) Expr.PlainLiterals) :=
    fun _ _ _ _ fetched => (built.supplies fetched).plain
  have table : before.Each (Template.Every (fun _ => True) Expr.PlainLiterals) :=
    fun entry member => (built.table entry member).plain
  obtain ⟨options, after, ⟨name, run⟩ | ⟨main, compiled, run⟩⟩ := built.resolves
  · exact (Resolver.named_maintains supplies options name table run).2
  · exact (Resolver.template_maintains supplies options compiled.plain table run).2

theorem Every.harmless {resolved : Resolved}
    (plain : resolved.Every (fun _ => True) Expr.PlainLiterals)
    (clean : resolved.Every Rendering.CleanText Expr.NeverSafe) :
    resolved.Every Rendering.CleanText (Expr.Every Value.Tame (· ≠ "safe")) := by
  have exprs : ∀ expr : Expr, expr.PlainLiterals → expr.NeverSafe →
      expr.Every Value.Tame (· ≠ "safe") := fun expr =>
    Expr.Every.combine (fun _ plain _ => plain.tame) (fun _ _ other => other) expr
  have bodies : ∀ body, Node.BodyEvery (fun _ => True) Expr.PlainLiterals body →
      Node.BodyEvery Rendering.CleanText Expr.NeverSafe body →
      Node.BodyEvery Rendering.CleanText (Expr.Every Value.Tame (· ≠ "safe")) body := fun body =>
    Node.BodyEvery.combine (fun _ _ clean => clean) exprs body
  exact ⟨bodies _ plain.body clean.body, fun entry member =>
    bodies _ (plain.includes entry member) (clean.includes entry member)⟩

theorem renderIn_clean {resolved : Resolved} {settings : Settings} {scope after : Scope}
    {output : String} {allowed : String → Prop} (guards : Rendering.Guards settings allowed)
    (every : resolved.Every Rendering.CleanText (Expr.Every Value.Tame allowed))
    (tame : scope.Each Value.Tame)
    (renders : resolved.renderIn settings scope = (.ok output, after)) :
    Text.IsClean output.toList := by
  have start : Canvas.Tame { scope := scope } := ⟨tame, .nil⟩
  cases run : Rendering.whole settings resolved { scope := scope } with
  | mk outcome canvas =>
      simp only [renderIn, ExceptT.run, run] at renders
      cases outcome with
      | error failure => cases renders
      | ok result =>
          cases renders
          exact (Rendering.whole_maintains guards every start run).1.output

/-- With escaping on, the output of a template of clean texts that never declares anything safe is
clean, whatever values without safe strings it shows. -/
theorem render_clean {resolved : Resolved} {settings : Settings}
    (made : (∃ (σ : Type) (source : Source σ) (before : Resolver.State σ),
      resolved.IsBuilt source before) ∨ resolved.Every (fun _ => True) Expr.PlainLiterals)
    (clean : resolved.Every Rendering.CleanText Expr.NeverSafe)
    (escapes : settings.options.escape = .html) (builtin : settings.filters = .builtin) :
    (∀ values output, Dictionary.Each Value.Plain values →
      resolved.render settings values = .ok output → Text.IsClean output.toList) ∧
    ∀ scope output, scope.Each Value.Plain →
      (resolved.renderUnder settings scope).1 = .ok output → Text.IsClean output.toList := by
  have plain : resolved.Every (fun _ => True) Expr.PlainLiterals := by
    obtain ⟨σ, source, before, built⟩ | plain := made
    · exact built.plain
    · exact plain
  have harmless := plain.harmless clean
  have guards : Rendering.Guards settings (· ≠ "safe") := by
    refine ⟨escapes, fun name filter other found => ?_⟩
    rw [builtin] at found
    exact Registry.builtin_tame other found
  constructor
  · intro values output each renders
    have tame : (Scope.ofFrame values).Each Value.Tame :=
      .ofFrame fun entry member => (each entry member).tame
    exact renderIn_clean guards harmless tame (Prod.ext renders rfl)
  · intro scope output each renders
    have tame : (scope.push []).Each Value.Tame :=
      Scope.Each.push (fun frame member entry inside => (each frame member entry inside).tame) .nil
    unfold renderUnder at renders
    dsimp only at renders
    split at renders
    · exact renderIn_clean guards harmless tame (Prod.ext renders rfl)
    · cases renders

theorem render_clean_greeting : ∃ resolved : Resolved,
    resolved.render {} [("name", .string "<b>")] = .ok "Hi &lt;b&gt;!" ∧
      Text.IsClean "Hi &lt;b&gt;!".toList := by
  have known : ∃ source : Source Unit, source.Supplies Template.IsCompiled ∧
      ∃ resolved after,
        Resolver.named source {} "hi" { table := [], supply := () } = (.ok resolved, after) ∧
        resolved.Every Rendering.CleanText Expr.NeverSafe ∧
        resolved.render {} [("name", .string "<b>")] = .ok "Hi &lt;b&gt;!" := by
    refine ⟨Loader.source (some ⟨[("hi", "Hi \x7b\x7b name \x7d\x7d!")]⟩) {} {},
      Loader.source_supplies _ _ _, _, _, by cbv, ⟨?_, .nil⟩, by cbv⟩
    have texts : Rendering.CleanText "Hi " ∧ Rendering.CleanText "!" :=
      ⟨.ofPlain (Text.forall_mem_of_all (by decide)), .ofPlain (Text.forall_mem_of_all (by decide))⟩
    exact ⟨texts.1, trivial, texts.2, trivial⟩
  obtain ⟨source, supplies, resolved, after, resolves, clean, renders⟩ := known
  have built : resolved.IsBuilt source { table := [], supply := () } :=
    ⟨supplies, .nil, {}, after, .inl ⟨"hi", resolves⟩⟩
  have plain : Dictionary.Each Value.Plain [("name", .string "<b>")] :=
    List.forall_mem_singleton.mpr rfl
  exact ⟨resolved, renders,
    (render_clean (.inl ⟨Unit, source, _, built⟩) clean rfl rfl).1 _ _ plain renders⟩

end Resolved

end Templating
