import TemplateEngine.Proofs.Counterparts
import TemplateEngine.Proofs.Markup.Escaping
import TemplateEngine.Proofs.Settled

namespace TemplateEngine

/-- A literal that has a value from the start. -/
def Slot.Given (slot : Slot) : Prop := ∃ value, slot = .ready value

/-- An instruction that prints data only when it is escaped, and names the templates that it calls by literals. -/
inductive Instruction.Guarded : Instruction → Prop
  | text (s : String) : Guarded (.text s)
  | css (name : String) : Guarded (.css name)
  | xid (name : String) : Guarded (.xid name)
  | print {ref : ValueRef} (literal : ref.Literal Slot.Given) : Guarded (.print ref ["|escapeHtml"])
  | printCall (function : String) (args : List ValueRef) : Guarded (.printCall function args ["|escapeHtml"])
  | call (callee : String) {data : CallData} (literals : data.Literals Slot.Given) : Guarded (.call callee data)
  | delegateCall {target : DelegateCall} {variant : Value} (literal : target.variant = .literal (.ready variant))
      (literals : target.data.Literals Slot.Given)
      (escapers : target.escapers = [] ∨ target.escapers = ["|escapeHtml"]) : Guarded (.delegateCall target)

/-- The literal variant of a delegate call holds no cell, so that it selects by the same text at all times. -/
def Instruction.FixedVariant : Instruction → Prop
  | .delegateCall target => ∀ variant, target.variant = .literal (.ready variant) → variant.cells = []
  | _ => True

/-- The templates that an instruction can call, whatever cells are completed. -/
inductive Instruction.CanCall (registry : Registry) (delegates : DelegateView TemplateEntry) :
    Instruction → TemplateEntry → Prop
  | call {name data entry} (found : registry.lookup name = .ok entry) :
      CanCall registry delegates (.call name data) entry
  | delegate {target : DelegateCall} {variant σ entry} (literal : target.variant = .literal (.ready variant))
      (selected : delegates.select? target.callee (variant.toVariant σ) = some entry) :
      CanCall registry delegates (.delegateCall target) entry

/-- A template leads to itself and to everything that it can call, directly or through other templates. -/
inductive TemplateEntry.LeadsTo (registry : Registry) (delegates : DelegateView TemplateEntry) (root : TemplateEntry) :
    TemplateEntry → Prop
  | root : LeadsTo registry delegates root root
  | further {caller callee : TemplateEntry} {p : Program} {step : Step} (leads : LeadsTo registry delegates root caller)
      (body : caller.body = .program p) (among : step ∈ p.steps)
      (calls : step.instruction.CanCall registry delegates callee) : LeadsTo registry delegates root callee

/-- A template that consists of guarded instructions, with everything that it can call. -/
def TemplateEntry.GuardedThroughout (registry : Registry) (delegates : DelegateView TemplateEntry)
    (root : TemplateEntry) : Prop :=
  ∀ entry, root.LeadsTo registry delegates entry →
    ∃ p, entry.body = .program p ∧ ∀ step ∈ p.steps, step.instruction.Guarded

/-- The delegate calls of a template and of everything that it can call have fixed variants. -/
def TemplateEntry.FixedVariants (registry : Registry) (delegates : DelegateView TemplateEntry) (root : TemplateEntry) :
    Prop :=
  ∀ entry, root.LeadsTo registry delegates entry →
    ∀ p, entry.body = .program p → ∀ step ∈ p.steps, step.instruction.FixedVariant

/-- Two environments with the same templates, active packages, directives and renamed names. -/
structure RenderContext.SameOutline (ctx ctx' : RenderContext) : Prop where
  registry : ctx'.registry = ctx.registry
  delegates : ctx'.delegates = ctx.delegates
  directives : ctx'.directives = ctx.directives
  cssNames : ctx'.cssNames = ctx.cssNames
  xidNames : ctx'.xidNames = ctx.xidNames

theorem Value.toVariant_closed {variant : Value} (closed : variant.cells = []) (σ σ' : CellStore) :
    variant.toVariant σ = variant.toVariant σ' := by
  have same : σ.text variant = σ'.text variant := variant.textWith_congr fun c member => by simp [closed] at member
  cases variant with
  | null => rfl
  | bool | integer | float | string | list | record | sanitized => exact same

/-- A guarded instruction with a fixed variant that calls only what some root leads to. -/
structure Step.Safe (registry : Registry) (delegates : DelegateView TemplateEntry) (root : TemplateEntry)
    (step : Step) : Prop where
  guarded : step.instruction.Guarded
  fixed : step.instruction.FixedVariant
  leads : ∀ callee, step.instruction.CanCall registry delegates callee → root.LeadsTo registry delegates callee

/-- One program in two renders, at the same instruction. -/
structure Activation.Akin (safe : Step → Prop) (R : Slot → Slot → Prop) (frame frame' : Activation) : Prop where
  todo : frame'.todo = frame.todo
  safe : ∀ step ∈ frame.todo, safe step
  params : Record.Corresponds R frame.params frame'.params
  injected : Record.Corresponds R frame.injected frame'.injected

namespace Instance

/-- One template in two renders. Of what waits for the directive, only the markup of content of kind HTML has to be the
same. -/
inductive Akin (safe : Step → Prop) (R : Slot → Slot → Prop) : Instance → Instance → Prop
  | empty : Akin safe R .empty .empty
  | program {frame frame'} (frames : Activation.Akin safe R frame frame') :
      Akin safe R (.program frame none) (.program frame' none)
  | calling {frame frame' first rest callee callee'} (frames : Activation.Akin safe R frame frame')
      (todo : frame.todo = first :: rest) (calls : first.instruction.calls = true)
      (inside : Akin safe R callee callee') :
      Akin safe R (.program frame (some callee)) (.program frame' (some callee'))
  | escaped {inner inner' kind buffer buffer'} (inside : Akin safe R inner inner')
      (markup : kind = some .html → Text.markup buffer.text = Text.markup buffer'.text) :
      Akin safe R (.escaped ⟨inner, [.escapeHtml], kind, buffer⟩) (.escaped ⟨inner', [.escapeHtml], kind, buffer'⟩)

end Instance

section Calls

variable {ctx ctx' : RenderContext} {root : TemplateEntry} {R : Slot → Slot → Prop} {σ σ' : CellStore}
variable {params injected params' injected' : Record}

/-- The directive is the built-in one, and no function gives content of kind HTML. -/
structure RenderContext.Escapes (ctx : RenderContext) : Prop where
  builtin : ctx.directives.lookup "|escapeHtml" = .ok .escapeHtml
  functions : ∀ name function, ctx.functions.lookup name = .ok function → ∀ σ args value,
    function.call σ args = .ok value → value.contentKind ≠ some .html

theorem TemplateEntry.start_akin (guarded : root.GuardedThroughout ctx.registry ctx.delegates)
    (fixed : root.FixedVariants ctx.registry ctx.delegates) {entry : TemplateEntry}
    (leads : root.LeadsTo ctx.registry ctx.delegates entry) (given : Record.Corresponds R params params')
    (common : Record.Corresponds R injected injected') :
    (entry.start params injected).Akin (Step.Safe ctx.registry ctx.delegates root) R
      (entry.start params' injected') := by
  obtain ⟨p, body, steps⟩ := guarded entry leads
  simp only [start, body]
  exact .program ⟨rfl, fun step member => ⟨steps step member, fixed entry leads p body step member,
    fun callee calls => leads.further body member calls⟩, given, common⟩

theorem RenderContext.selectDelegate_akin (outline : ctx.SameOutline ctx')
    (guarded : root.GuardedThroughout ctx.registry ctx.delegates)
    (fixed : root.FixedVariants ctx.registry ctx.delegates) {name variant : String} {allowEmpty : Bool}
    (leads : ∀ entry, ctx.delegates.select? name variant = some entry →
      root.LeadsTo ctx.registry ctx.delegates entry)
    (given : Record.Corresponds R params params') (common : Record.Corresponds R injected injected')
    {resolved resolved' : ResolvedCallee}
    (selected : ctx.selectDelegate name variant allowEmpty params injected = .ok resolved)
    (selected' : ctx'.selectDelegate name variant allowEmpty params' injected' = .ok resolved') :
    resolved'.kind = resolved.kind ∧
      resolved.template.Akin (Step.Safe ctx.registry ctx.delegates root) R resolved'.template := by
  have chosen' := selectDelegate_eq_ok selected'
  rw [outline.delegates] at chosen'
  rcases selectDelegate_eq_ok selected with ⟨entry, chosen, rfl⟩ | ⟨nothing, rfl⟩
  · rcases chosen' with ⟨entry', same, rfl⟩ | ⟨nothing, -⟩
    · obtain rfl := Option.some.inj (chosen.symm.trans same)
      exact ⟨rfl, TemplateEntry.start_akin guarded fixed (leads entry chosen) given common⟩
    · cases nothing.symm.trans chosen
  · rcases chosen' with ⟨entry', same, rfl⟩ | ⟨-, rfl⟩
    · cases nothing.symm.trans same
    · exact ⟨rfl, .empty⟩

/-- A safe instruction starts the same callee in both renders. -/
theorem Instruction.enter_akin (outline : ctx.SameOutline ctx') (escapes : ctx.Escapes)
    (guarded : root.GuardedThroughout ctx.registry ctx.delegates)
    (fixed : root.FixedVariants ctx.registry ctx.delegates) (literals : ∀ value, R (.ready value) (.ready value))
    {step : Step} (safe : step.Safe ctx.registry ctx.delegates root) (given : Record.Corresponds R params params')
    (common : Record.Corresponds R injected injected') {callee callee' : Instance}
    (entered : step.instruction.effect ctx σ params injected = .ok (.enter callee))
    (entered' : step.instruction.effect ctx' σ' params' injected' = .ok (.enter callee')) :
    callee.Akin (Step.Safe ctx.registry ctx.delegates root) R callee' := by
  obtain ⟨instruction, position⟩ := step
  obtain ⟨kind, fixedVariant, leads⟩ := safe
  have handed {data : CallData} (given' : data.Literals Slot.Given) :
      Record.Corresponds R (data.record params injected) (data.record params' injected') := by
    refine (CallData.Corresponds.refl ?_ given').record (literals _) given common
    rintro _ ⟨value, rfl⟩
    exact literals value
  cases kind with
  | text | css | xid | print | printCall => exact absurd entered (effect_ne_enter rfl callee)
  | @call name data passed =>
    obtain ⟨entry, found, rfl⟩ := call_enters entered
    obtain ⟨entry', found', rfl⟩ := call_enters entered'
    rw [outline.registry, found] at found'
    obtain rfl := Except.ok.inj found'
    exact TemplateEntry.start_akin guarded fixed (leads entry (.call found)) (handed passed) common
  | @delegateCall target variant literal passed escapers =>
    obtain ⟨value, resolved, read, selected, wrapped⟩ := DelegateCall.start_eq_ok (delegateCall_enters entered)
    obtain ⟨value', resolved', read', selected', wrapped'⟩ := DelegateCall.start_eq_ok (delegateCall_enters entered')
    have known {σ : CellStore} {params injected : Record} {value : Value}
        (read : target.variant.read σ params injected = .ok value) : value = variant := by
      rw [literal] at read
      exact (Except.ok.inj read).symm
    obtain rfl := known read
    obtain rfl := known read'
    rw [value'.toVariant_closed (fixedVariant value' literal) σ' σ] at selected'
    obtain ⟨kinds, templates⟩ := RenderContext.selectDelegate_akin outline guarded fixed
      (fun entry chosen => leads entry (.delegate literal chosen)) (handed passed) common selected selected'
    rcases escapers with plain | escaped
    · rcases wrapped with ⟨-, rfl⟩ | ⟨_, wrapped, -⟩
      · rcases wrapped' with ⟨-, rfl⟩ | ⟨_, wrapped, -⟩
        · exact templates
        · exact absurd plain wrapped
      · exact absurd plain wrapped
    · have escaping {table : DirectiveTable} {directives : List PrintDirective}
          (builtin : table.lookup "|escapeHtml" = .ok .escapeHtml)
          (found : target.escapers.mapM table.lookup = .ok directives) : directives = [.escapeHtml] := by
        rw [escaped] at found
        simpa [builtin, bind, Except.bind, pure, Except.pure, eq_comm] using found
      rcases wrapped with ⟨plain, -⟩ | ⟨_, -, found, rfl⟩
      · cases escaped.symm.trans plain
      · rcases wrapped' with ⟨plain, -⟩ | ⟨_, -, found', rfl⟩
        · cases escaped.symm.trans plain
        · obtain rfl := escaping escapes.builtin found
          obtain rfl := escaping (outline.directives ▸ escapes.builtin) found'
          rw [kinds]
          exact .escaped templates fun _ => rfl

/-- Templates of safe programs. -/
def Parts.safe (ctx : RenderContext) (root : TemplateEntry) : Parts :=
  ⟨fun frame => ∀ step ∈ frame.todo, step.Safe ctx.registry ctx.delegates root, fun _ => True⟩

theorem Instance.Akin.madeOf {template template' : Instance}
    (akin : template.Akin (Step.Safe ctx.registry ctx.delegates root) R template') :
    template.MadeOf (.safe ctx root) := by
  induction akin with
  | empty => exact .empty
  | program frames => exact .program frames.safe
  | calling frames todo calls _ ih => exact .calling frames.safe (.of_calls todo calls _) ih
  | escaped _ _ ih => exact .escaped (fun _ _ => trivial) ih

theorem TemplateEntry.GuardedThroughout.start_madeOf (guarded : root.GuardedThroughout ctx.registry ctx.delegates)
    (fixed : root.FixedVariants ctx.registry ctx.delegates) (params injected : Record) :
    (root.start params injected).MadeOf (.safe ctx root) := by
  have akin : (root.start params injected).Akin (Step.Safe ctx.registry ctx.delegates root) (fun _ _ => True)
      (root.start params injected) := start_akin guarded fixed .root (fun _ => trivial) (fun _ => trivial)
  exact akin.madeOf

/-- Safe programs call safe programs only: a render is akin to itself, whatever its data. -/
theorem RenderContext.Escapes.hereditary (escapes : ctx.Escapes)
    (guarded : root.GuardedThroughout ctx.registry ctx.delegates)
    (fixed : root.FixedVariants ctx.registry ctx.delegates) :
    Hereditary ctx σ (.safe ctx root) where
  rest safe step member := safe step (List.mem_cons_of_mem _ member)
  enter safe entered :=
    (Instruction.enter_akin (R := fun _ _ => True) ⟨rfl, rfl, rfl, rfl, rfl⟩ escapes guarded fixed (fun _ => trivial)
      (safe _ List.mem_cons_self) (fun _ => trivial) (fun _ => trivial) entered entered).madeOf

end Calls

end TemplateEngine
