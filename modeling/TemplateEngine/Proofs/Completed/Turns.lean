import TemplateEngine.Proofs.Completed.Effects
import TemplateEngine.Proofs.Selections

namespace TemplateEngine

variable {base σ σ' : CellStore} {ctx ctx' : RenderContext}

structure Output.Unfolds (base : CellStore) (output output' : Output) : Prop where
  text : output'.text = output.text
  refusal : output'.refusal = output.refusal
  retry : output.retry.Unfolds base output'.retry

inductive Turn.Unfolds (base : CellStore) : Turn → Turn → Prop
  | await (c : CellId) {template template'} (templates : template.Unfolds base template') :
      Unfolds base (.await c template) (.await c template')
  | fail {e e' : RenderError} (errors : e' = e) {template template'} (templates : template.Unfolds base template') :
      Unfolds base (.fail e template) (.fail e' template')
  | act {output output'} (outputs : Option.Rel (Output.Unfolds base) output output') (pace : Pace) {next next'}
      (templates : next.Unfolds base next') : Unfolds base (.act output pace next) (.act output' pace next')

namespace Activation.Unfolds

variable {frame frame' : Activation} {first first' : Step} {rest rest' : List Step}

theorem withTodo (frames : frame.Unfolds base frame') (rests : List.Forall₂ (Step.Unfolds base) rest rest') :
    Activation.Unfolds base { frame with todo := rest } { frame' with todo := rest' } :=
  ⟨frames.name, rests, frames.params, frames.injected⟩

/-- Programs with the same slot. -/
theorem program (frames : frame.Unfolds base frame') {slot slot' : Option Instance}
    (slots : Option.Rel (Instance.Unfolds base) slot slot') :
    (Instance.program frame slot).Unfolds base (.program frame' slot') := by
  cases slots with
  | none => exact .program frames
  | some inside => exact .calling frames inside

theorem complete (frames : frame.Unfolds base frame') {slot slot' : Option Instance}
    (slots : Option.Rel (Instance.Unfolds base) slot slot') (rests : List.Forall₂ (Step.Unfolds base) rest rest')
    {output output' : Option Output} (outputs : Option.Rel (Output.Unfolds base) output output') :
    (frame.complete rest slot output).Unfolds base (frame'.complete rest' slot' output') := by
  have paces : rest'.isEmpty = rest.isEmpty := by cases rests <;> rfl
  rw [Activation.complete, Activation.complete, paces]
  exact .act outputs _ ((frames.withTodo rests).program slots)

theorem output (frames : frame.Unfolds base frame') {slot slot' : Option Instance}
    (slots : Option.Rel (Instance.Unfolds base) slot slot') (steps : first.Unfolds base first')
    (rests : List.Forall₂ (Step.Unfolds base) rest rest') (refusal : SinkError → ErrorKind) (text : String) :
    (frame.output first rest slot refusal text).Unfolds base (frame'.output first' rest' slot' refusal text) where
  text := rfl
  refusal := by rw [Activation.output, Activation.output, frames.name, steps.position]
  retry := (frames.withTodo (.cons steps rests)).program slots

theorem relayOutput (frames : frame.Unfolds base frame') (steps : first.Unfolds base first')
    (rests : List.Forall₂ (Step.Unfolds base) rest rest') {output output' : Option Output}
    (outputs : Option.Rel (Output.Unfolds base) output output') :
    Option.Rel (Output.Unfolds base) (output.map (frame.relayOutput first rest))
      (output'.map (frame'.relayOutput first' rest')) := by
  cases outputs with
  | none => exact .none
  | some same =>
    refine .some ⟨same.text, ?_, .calling (frames.withTodo (.cons steps rests)) same.retry⟩
    simp only [Activation.relayOutput, same.refusal, frames.name, steps.position]

/-- A program passes on what its callee does. -/
theorem relay (frames : frame.Unfolds base frame') (steps : first.Unfolds base first')
    (rests : List.Forall₂ (Step.Unfolds base) rest rest') {turn turn' : Turn} (turns : turn.Unfolds base turn') :
    (frame.relay first rest turn).Unfolds base (frame'.relay first' rest' turn') := by
  have here {callee callee' : Instance} (callees : callee.Unfolds base callee') :=
    Instance.Unfolds.calling (frames.withTodo (.cons steps rests)) callees
  cases turns with
  | await c callees => exact .await c (here callees)
  | fail errors callees => exact .fail (by rw [errors, frames.name, steps.position]) (here callees)
  | act outputs pace callees =>
    have passed := frames.relayOutput steps rests outputs
    cases pace with
    | finished => exact frames.complete .none rests passed
    | asking | onward | resting => exact .act passed _ (here callees)

end Activation.Unfolds

theorem PrintDirective.applyAll_alike (stores : base.Matches σ σ') {directives : List PrintDirective}
    (observing : ∀ directive ∈ directives, directive.Observes base) {v w : Value} (alike : v.LooksLike σ σ' w) :
    SameOutcome (Value.LooksLike σ σ') (PrintDirective.applyAll σ directives v)
      (PrintDirective.applyAll σ' directives w) := by
  induction directives generalizing v w with
  | nil => exact .ok alike
  | cons directive rest ih =>
    rw [PrintDirective.applyAll, PrintDirective.applyAll, List.foldlM_cons, List.foldlM_cons]
    have first := observing directive List.mem_cons_self σ σ' stores v w alike
    refine (SameOutcome.of_view first).bind fun v w alike => ?_
    exact ih (fun directive member => observing directive (List.mem_cons_of_mem _ member)) alike

namespace Escaped

variable {directives : List PrintDirective}

theorem finish_unfolds (stores : base.Matches σ σ') (observing : ∀ directive ∈ directives, directive.Observes base)
    (inner inner' : Instance) (kind : Option ContentKind) (buffer : OutputBuffer) (output : String) :
    finish σ' ⟨inner', directives, kind, buffer⟩ output = finish σ ⟨inner, directives, kind, buffer⟩ output := by
  let whole : Value := kind.elim (.string output) fun kind => .sanitized ⟨output, kind⟩
  have results := PrintDirective.applyAll_alike stores observing ((Value.Unfolds.same whole).looksLike stores)
  change (PrintDirective.applyAll σ' directives whole).map σ'.text =
    (PrintDirective.applyAll σ directives whole).map σ.text
  generalize PrintDirective.applyAll σ directives whole = x, PrintDirective.applyAll σ' directives whole = x' at results
  cases results with
  | error e => rfl
  | ok alike => exact congrArg Except.ok alike.text

theorem turn_unfolds (stores : base.Matches σ σ') (observing : ∀ directive ∈ directives, directive.Observes base)
    (inner inner' : Instance) (kind : Option ContentKind) (buffer : OutputBuffer) {turn turn' : Turn}
    (turns : turn.Unfolds base turn') :
    (Escaped.turn σ ⟨inner, directives, kind, buffer⟩ turn).Unfolds base
      (Escaped.turn σ' ⟨inner', directives, kind, buffer⟩ turn') := by
  have wrapped (buffer : OutputBuffer) {next next' : Instance} (templates : next.Unfolds base next') :=
    Instance.Unfolds.escaped observing kind buffer templates
  cases turns with
  | await c templates => exact .await c (wrapped buffer templates)
  | fail errors templates => exact .fail errors (wrapped buffer templates)
  | @act output output' outputs pace next next' templates =>
    -- The buffer takes the same text from both.
    have collected : output'.elim buffer (fun output => ⟨buffer.text ++ output.text⟩) =
        output.elim buffer (fun output => (⟨buffer.text ++ output.text⟩ : OutputBuffer)) := by
      cases outputs with
      | none => rfl
      | some same => exact congrArg (fun text => (⟨buffer.text ++ text⟩ : OutputBuffer)) same.text
    cases pace with
    | resting =>
      simp only [Escaped.turn, collect, collected]
      exact .act .none .resting (wrapped _ templates)
    | asking | onward =>
      simp only [Escaped.turn, collect, collected]
      exact .act .none .onward (wrapped _ templates)
    | finished =>
      simp only [Escaped.turn, collect, collected, deliver]
      rw [finish_unfolds stores observing next]
      split
      · exact .fail rfl (wrapped _ templates)
      · have emptied := wrapped OutputBuffer.empty templates
        refine .act (.some ?_) .finished emptied
        exact ⟨rfl, rfl, emptied⟩

end Escaped

theorem Instruction.Unfolds.calls {instruction instruction' : Instruction}
    (instructions : instruction.Unfolds base instruction') : instruction'.calls = instruction.calls := by
  cases instructions <;> rfl

/-- Replacing completed cells does not change what a step goes on with. -/
theorem Step.Unfolds.inFlight {first first' : Step} (steps : first.Unfolds base first') {slot slot' : Option Instance}
    (slots : Option.Rel (Instance.Unfolds base) slot slot') :
    Option.Rel (Instance.Unfolds base) (first.inFlight slot) (first'.inFlight slot') := by
  have calls : first'.instruction.calls = first.instruction.calls := steps.instruction.calls
  rw [Step.inFlight, Step.inFlight, calls]
  split
  · exact slots
  · exact .none

theorem Activation.Unfolds.turn {frame frame' : Activation} (frames : frame.Unfolds base frame')
    (contexts : ctx.Unfolds base ctx') (observes : ctx.Observes base) (stores : base.Matches σ σ') {depth : Nat}
    (callees : ∀ {callee callee' : Instance}, callee.Unfolds base callee' →
      (callee.turn ctx σ depth).Unfolds base (callee'.turn ctx' σ' depth))
    {slot slot' : Option Instance} (slots : Option.Rel (Instance.Unfolds base) slot slot') :
    (frame.turn ctx σ (Instance.turn ctx σ depth) frame.todo slot).Unfolds base
      (frame'.turn ctx' σ' (Instance.turn ctx' σ' depth) frame'.todo slot') := by
  have steps := frames.todo
  generalize frame.todo = steps, frame'.todo = steps' at steps
  cases steps with
  | nil => exact .act .none .finished ((frames.withTodo .nil).program slots)
  | @cons first first' rest rest' same rests =>
    have here := (frames.withTodo (.cons same rests)).program slots
    have flying := same.inFlight slots
    simp only [Activation.turn]
    generalize first.inFlight slot = flying, first'.inFlight slot' = flying' at flying
    cases flying with
    | some inside => exact frames.relay same rests (callees inside)
    | none =>
      have effects := same.instruction.effect contexts observes stores frames.params frames.injected
      generalize first.instruction.effect ctx σ frame.params frame.injected = effect,
        first'.instruction.effect ctx' σ' frame'.params frame'.injected = effect' at effects
      cases effects with
      | error obstacle =>
        cases obstacle with
        | awaits c => exact .await c here
        | fails e => exact .fail (by rw [frames.name, same.position]) here
      | ok effects =>
        cases effects with
        | write text => exact frames.complete slots rests (.some (frames.output slots same rests _ text))
        | writeMessage text => exact frames.complete slots rests (.some (frames.output slots same rests _ text))
        | silent => exact frames.complete slots rests .none
        | enter entered => exact frames.relay same rests (callees entered)

namespace Instance.Unfolds

/-- What templates do next does not change when completed cells are replaced. -/
theorem turn {template template' : Instance} (templates : template.Unfolds base template')
    (contexts : ctx.Unfolds base ctx') (observes : ctx.Observes base) (stores : base.Matches σ σ') (depth : Nat) :
    (template.turn ctx σ depth).Unfolds base (template'.turn ctx' σ' depth) := by
  induction depth generalizing template template' with
  | zero => exact .fail rfl templates
  | succ depth ih =>
    cases templates with
    | empty => exact .act .none .finished .empty
    | escaped observing kind buffer inside => exact Escaped.turn_unfolds stores observing _ _ kind buffer (ih inside)
    | calling frames inside => exact frames.turn contexts observes stores (fun callees => ih callees) (.some inside)
    | program frames => exact frames.turn contexts observes stores (fun callees => ih callees) .none

end Instance.Unfolds

section Selections

variable {params injected params' injected' : Record}

/-- The variant is the same, so the same implementation is chosen. -/
theorem DelegateCall.Unfolds.selection? {call call' : DelegateCall} (calls : call.Unfolds base call')
    (contexts : ctx.Unfolds base ctx') (stores : base.Matches σ σ')
    (given : Record.Corresponds (Slot.Unfolds base) params params')
    (common : Record.Corresponds (Slot.Unfolds base) injected injected') :
    call'.selection? ctx' σ' params' injected' = call.selection? ctx σ params injected := by
  refine (ValueRef.read_unfolds calls.variant stores.stores given common).toOption_map fun v w values => ?_
  rw [values.toVariant stores, calls.callee, calls.allowEmpty]
  have records := calls.data.record (.same .null) given common
  have selected := contexts.selectDelegate call.callee (v.toVariant σ) call.allowEmpty records common
  exact congrArg (Selection.mk call.callee (v.toVariant σ))
    (selected.toOption_map fun resolved resolved' same => same.name)

theorem Instruction.Unfolds.selection? {instruction instruction' : Instruction}
    (instructions : instruction.Unfolds base instruction') (contexts : ctx.Unfolds base ctx')
    (stores : base.Matches σ σ') (given : Record.Corresponds (Slot.Unfolds base) params params')
    (common : Record.Corresponds (Slot.Unfolds base) injected injected') :
    instruction'.selection? ctx' σ' params' injected' = instruction.selection? ctx σ params injected := by
  cases instructions with
  | delegateCall calls => exact calls.selection? contexts stores given common
  | text | css | xid | print | printCall | call | message => rfl

/-- The delegates that are selected in a turn do not change when completed cells are replaced. -/
theorem Instance.Unfolds.selections {template template' : Instance} (templates : template.Unfolds base template')
    (contexts : ctx.Unfolds base ctx') (observes : ctx.Observes base) (stores : base.Matches σ σ') (depth : Nat) :
    template'.selections ctx' σ' depth = template.selections ctx σ depth := by
  induction depth generalizing template template' with
  | zero => rfl
  | succ depth ih =>
    have program {frame frame' : Activation} (frames : frame.Unfolds base frame') {slot slot' : Option Instance}
        (slots : Option.Rel (Instance.Unfolds base) slot slot') :
        frame'.selections ctx' σ' (Instance.selections ctx' σ' depth) frame'.todo slot' =
          frame.selections ctx σ (Instance.selections ctx σ depth) frame.todo slot := by
      have steps := frames.todo
      generalize frame.todo = steps, frame'.todo = steps' at steps
      cases steps with
      | nil => rfl
      | @cons first first' rest rest' same rests =>
        have flying := same.inFlight slots
        simp only [Activation.selections]
        generalize first.inFlight slot = flying, first'.inFlight slot' = flying' at flying
        cases flying with
        | some inside => exact ih inside
        | none =>
          have effects := same.instruction.effect contexts observes stores frames.params frames.injected
          simp only [same.instruction.selection? contexts stores frames.params frames.injected]
          generalize first.instruction.effect ctx σ frame.params frame.injected = effect,
            first'.instruction.effect ctx' σ' frame'.params frame'.injected = effect' at effects
          cases effects with
          | error obstacle => rfl
          | ok effects =>
            cases effects with
            | write | writeMessage | silent => rfl
            | enter callees => exact congrArg _ (ih callees)
    cases templates with
    | empty => rfl
    | escaped observing kind buffer inside => exact ih inside
    | calling frames inside => exact program frames (.some inside)
    | program frames => exact program frames .none

end Selections

end TemplateEngine
