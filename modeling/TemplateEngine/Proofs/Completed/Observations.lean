import TemplateEngine.Proofs.Completed.Texts
import TemplateEngine.Proofs.Counterparts
import TemplateEngine.Proofs.Outcomes
import TemplateEngine.Proofs.Pure

namespace TemplateEngine

/-- All that functions and directives may look at of a value. -/
structure ValueView where
  text : String
  truthy : Bool
  kind : Option ContentKind
  string : Option String
  integer : Option Int64

namespace Value

def view (σ : CellStore) (v : Value) : ValueView := ⟨σ.text v, v.truthy, v.contentKind, v.asString, v.asInteger⟩

/-- Two values, each with the cells as they are known, look the same. -/
def LooksLike (σ σ' : CellStore) (v w : Value) : Prop := v.view σ = w.view σ'

end Value

/-- Stores that are the same but for completed cells that are replaced, and in which no value contains itself. -/
structure CellStore.Matches (base σ σ' : CellStore) : Prop where
  stores : base.Unfolds σ σ'
  acyclic : σ.Acyclic

/-- The function makes what looks the same from arguments that look the same. -/
def PluginFunction.Observes (base : CellStore) (function : PluginFunction) : Prop :=
  ∀ σ σ', base.Matches σ σ' → ∀ args args', args.map (Value.view σ) = args'.map (Value.view σ') →
    (function.call σ args).map (Value.view σ) = (function.call σ' args').map (Value.view σ')

/-- The directive makes what looks the same from what looks the same. -/
def PrintDirective.Observes (base : CellStore) (directive : PrintDirective) : Prop :=
  ∀ σ σ', base.Matches σ σ' → ∀ v w : Value, v.LooksLike σ σ' w →
    (directive.apply σ v []).map (Value.view σ) = (directive.apply σ' w []).map (Value.view σ')

/-- Functions and directives look at values only through their texts, truthiness, kinds, and as texts and integers. -/
structure RenderContext.Observes (ctx : RenderContext) (base : CellStore) : Prop where
  functions : ∀ name function, ctx.functions.lookup name = .ok function → function.Observes base
  directives : ∀ name directive, ctx.directives.lookup name = .ok directive → directive.Observes base

variable {base σ σ' : CellStore}

theorem Value.Unfolds.looksLike {v w : Value} (unfolds : v.Unfolds base w) (stores : base.Matches σ σ') :
    v.LooksLike σ σ' w := by
  rw [LooksLike, view, view, unfolds.text stores.stores stores.acyclic, unfolds.truthy, unfolds.contentKind,
    unfolds.asString, unfolds.asInteger]

theorem SameOutcome.of_view {x x' : Except RenderError Value} (views : x.map (Value.view σ) = x'.map (Value.view σ')) :
    SameOutcome (Value.LooksLike σ σ') x x' := by
  cases x with
  | error e =>
    cases x' with
    | error e' =>
      obtain rfl : e = e' := Except.error.inj views
      exact .error e
    | ok w => cases views
  | ok v =>
    cases x' with
    | error e' => cases views
    | ok w => exact .ok (Except.ok.inj views)

theorem Value.LooksLike.text {v w : Value} (alike : v.LooksLike σ σ' w) : σ'.text w = σ.text v :=
  (congrArg ValueView.text alike).symm

theorem Value.LooksLike.kind {v w : Value} (alike : v.LooksLike σ σ' w) : w.contentKind = v.contentKind :=
  (congrArg ValueView.kind alike).symm

namespace PrintDirective

theorem observes_of_same {directive : PrintDirective} (applied : ∀ σ v, directive.apply σ v [] = .ok v) :
    directive.Observes base := by
  intro σ σ' _ v w alike
  rw [applied, applied]
  exact congrArg Except.ok alike

theorem escapeHtml_observes : escapeHtml.Observes base := by
  intro σ σ' _ v w alike
  simp only [escapeHtml]
  rw [alike.text, alike.kind]
  split
  · exact congrArg Except.ok alike
  · rfl

end PrintDirective

theorem DirectiveTable.builtin_observes (name : String) (directive : PrintDirective)
    (found : builtin.lookup name = .ok directive) : directive.Observes base := by
  have member := mem_of_builtin found
  simp only [List.mem_cons, List.not_mem_nil, or_false] at member
  rcases member with rfl | rfl | rfl
  · exact PrintDirective.escapeHtml_observes
  · exact PrintDirective.observes_of_same fun _ _ => rfl
  · exact PrintDirective.observes_of_same fun _ _ => rfl

namespace Slot.Unfolds

theorem resolve {slot slot' : Slot} (unfolds : slot.Unfolds base slot') (stores : base.Unfolds σ σ') :
    SameOutcome (Value.Unfolds base) (slot.resolve σ) (slot'.resolve σ') := by
  cases unfolds with
  | ready values => exact .ok values
  | completed held values =>
    simp only [Slot.resolve, stores.order.held held]
    exact .ok values
  | deferred c =>
    simp only [Slot.resolve, stores.label]
    have states := stores.state c
    generalize σ.state c = state, σ'.state c = state' at states
    cases states with
    | pending => exact .error _
    | completed values => exact .ok values
    | failed message => exact .error _

end Slot.Unfolds

variable {params injected params' injected' : Record}

/-- References are read with the same result, or wait for the same cell. -/
theorem ValueRef.read_unfolds {ref ref' : ValueRef} (refs : ref.Corresponds (Slot.Unfolds base) ref')
    (stores : base.Unfolds σ σ') (given : Record.Corresponds (Slot.Unfolds base) params params')
    (common : Record.Corresponds (Slot.Unfolds base) injected injected') :
    SameOutcome (Value.Unfolds base) (ref.read σ params injected) (ref'.read σ' params' injected') := by
  have slots := refs.slot given common
  simp only [ValueRef.read, slots.awaits stores]
  split
  · exact .error _
  · exact (slots.resolve stores).mapError _

theorem Value.Unfolds.toVariant {v w : Value} (unfolds : v.Unfolds base w) (stores : base.Matches σ σ') :
    w.toVariant σ' = v.toVariant σ := by
  have text := unfolds.text stores.stores stores.acyclic
  cases unfolds with
  | same v =>
    cases v with
    | null => rfl
    | bool | integer | float | string | list | record | sanitized => exact text
  | list each => exact text
  | record each => exact text

theorem Value.Unfolds.toPlaceholder {v w : Value} (unfolds : v.Unfolds base w) (stores : base.Matches σ σ') :
    w.toPlaceholder σ' = v.toPlaceholder σ := by
  have text := congrArg PlaceholderValue.text (unfolds.text stores.stores stores.acyclic)
  cases unfolds with
  | same v =>
    cases v with
    | integer n => rfl
    | null | bool | float | string | list | record | sanitized => exact text
  | list each => exact text
  | record each => exact text

end TemplateEngine
