import TemplateEngine.Proofs.Settled

namespace TemplateEngine

/-- A function whose results depend on its arguments alone, and contain no pending cell if they do not. -/
def PluginFunction.Pure (function : PluginFunction) : Prop :=
  ∀ base σ : CellStore, base.Extends σ → ∀ args : List Value, (∀ v ∈ args, v.Settled base) →
    function.call σ args = function.call base args ∧ ∀ v, function.call base args = .ok v → v.Settled base

/-- A directive whose results depend on its value alone, and contain no pending cell if it does not. -/
def PrintDirective.Pure (directive : PrintDirective) : Prop :=
  ∀ base σ : CellStore, base.Extends σ → ∀ v : Value, v.Settled base →
    directive.apply σ v [] = directive.apply base v [] ∧ ∀ w, directive.apply base v [] = .ok w → w.Settled base

theorem Value.settled_of_cells_eq_nil {base : CellStore} {v : Value} (nothing : v.cells = []) : v.Settled base := by
  intro c member
  rw [nothing] at member
  cases member

namespace PrintDirective

theorem pure_of_same {directive : PrintDirective} (applied : ∀ σ v, directive.apply σ v [] = .ok v) :
    directive.Pure := by
  intro base σ extended v settled
  rw [applied, applied]
  refine ⟨rfl, ?_⟩
  rintro w ⟨⟩
  exact settled

theorem escapeHtml_pure : escapeHtml.Pure := by
  intro base σ extended v settled
  simp only [escapeHtml]
  rw [extended.text settled]
  split
  · refine ⟨rfl, ?_⟩
    rintro w ⟨⟩
    exact settled
  · refine ⟨rfl, ?_⟩
    rintro w ⟨⟩
    exact Value.settled_of_cells_eq_nil rfl

end PrintDirective

theorem DirectiveTable.mem_of_builtin {name : String} {directive : PrintDirective}
    (found : builtin.lookup name = .ok directive) :
    directive ∈ [PrintDirective.escapeHtml, .noAutoescape, .identity] := by
  cases known : builtin.get? name with
  | none => simp [lookup, known] at found
  | some other =>
    simp only [lookup, known, Option.elim, Except.ok.injEq] at found
    subst found
    have listed : (name, other) ∈ [PrintDirective.escapeHtml, .noAutoescape, .identity].map fun d => (d.name, d) :=
      SortedMap.mem_of_get?_ofList known
    obtain ⟨directive, member, same⟩ := List.mem_map.mp listed
    rwa [← (Prod.mk.inj same).2]

theorem DirectiveTable.builtin_pure (name : String) (directive : PrintDirective)
    (found : builtin.lookup name = .ok directive) : directive.Pure := by
  have member := mem_of_builtin found
  simp only [List.mem_cons, List.not_mem_nil, or_false] at member
  rcases member with rfl | rfl | rfl
  · exact PrintDirective.escapeHtml_pure
  · exact PrintDirective.pure_of_same fun _ _ => rfl
  · exact PrintDirective.pure_of_same fun _ _ => rfl

structure RenderContext.Pure (ctx : RenderContext) : Prop where
  functions : ∀ name function, ctx.functions.lookup name = .ok function → function.Pure
  directives : ∀ name directive, ctx.directives.lookup name = .ok directive → directive.Pure

end TemplateEngine
