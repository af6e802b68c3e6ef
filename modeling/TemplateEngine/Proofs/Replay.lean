import TemplateEngine.Proofs.Later
import TemplateEngine.Proofs.Pacing

namespace TemplateEngine

variable {ctx : RenderContext} {base σ later : CellStore} {depth : Nat} {S : Type}

namespace StepResult

/-- A render that goes on from a result if that can be resumed, and has otherwise come to the same end. -/
def goOn (step : Instance → OutputBuffer → StepResult Instance OutputBuffer) (result : StepResult Instance S)
    (b : OutputBuffer) : StepResult Instance OutputBuffer :=
  if result.resumable then step result.template b else ⟨result.outcome, result.template, b⟩

variable {step : Instance → OutputBuffer → StepResult Instance OutputBuffer} {result : StepResult Instance S}
  {b : OutputBuffer}

theorem goOn_of_resumable (resumable : result.resumable = true) : result.goOn step b = step result.template b := by
  rw [goOn, if_pos resumable]

theorem goOn_of_ended (ended : result.resumable = false) :
    result.goOn step b = ⟨result.outcome, result.template, b⟩ := by
  rw [goOn, if_neg (by simp [ended])]

end StepResult

variable [Sink S]

def Sink.Accepting (S : Type) [Sink S] : Prop := ∀ text (s : S), (Sink.append text s).1 = .ok ()

def OutputBuffer.add (b : OutputBuffer) (text : String) : OutputBuffer := ⟨b.text ++ text⟩

namespace OutputBuffer

theorem add_empty (b : OutputBuffer) : b.add "" = b := by
  rw [OutputBuffer.add, String.append_empty]

theorem add_append (b : OutputBuffer) (text more : String) : b.add (text ++ more) = (b.add text).add more := by
  rw [OutputBuffer.add, OutputBuffer.add, OutputBuffer.add, String.append_assoc]

theorem takes_eq {output : Option Output} {b after : OutputBuffer} (takes : Sink.Takes output b after) :
    after = b.add (Output.textOf output) := by
  cases output with
  | none => exact takes.trans b.add_empty.symm
  | some output =>
    cases takes
    rfl

theorem takes_add (output : Option Output) (b : OutputBuffer) :
    Sink.Takes output b (b.add (Output.textOf output)) := by
  cases output with
  | none => exact b.add_empty
  | some output => rfl

theorem exists_step_text (ctx : RenderContext) (σ : CellStore) (depth : Nat) (template : Instance)
    (b : OutputBuffer) : ∃ more, (template.step ctx σ depth b).sink = b.add more := by
  have course := Instance.course_step ctx σ depth template b
  generalize template.step ctx σ depth b = result at course
  induction course with
  | await turn => exact ⟨"", (add_empty _).symm⟩
  | fail turn => exact ⟨"", (add_empty _).symm⟩
  | refused turn append => cases append
  | finished turn takes => exact ⟨_, takes_eq takes⟩
  | rested turn takes => exact ⟨_, takes_eq takes⟩
  | full turn takes answer => cases answer
  | further turn takes answer later ih =>
    cases answer
    obtain ⟨more, same⟩ := ih
    rw [same, takes_eq takes, ← add_append]
    exact ⟨_, rfl⟩
  | onward turn takes later ih =>
    obtain ⟨more, same⟩ := ih
    rw [same, takes_eq takes, ← add_append]
    exact ⟨_, rfl⟩

end OutputBuffer

namespace Instance

/-- Rendered later into a buffer, a template writes what the step has written and goes on from there. -/
theorem Trace.replay (accepting : Sink.Accepting S) (pure : ctx.Pure)
    (programs : ctx.Programs (Slot.Settled base)) (early : base.Extends σ) (late : base.Extends later)
    (order : σ.Precedes later) {template : Instance} {s : S} {log : List SinkEvent} {result : StepResult Instance S}
    (trace : template.Trace ctx σ depth s log result) (made : template.MadeOf (.settled base)) (b : OutputBuffer) :
    template.step ctx later depth b = result.goOn (step ctx later depth) (b.add (SinkEvent.written log)) := by
  have null : Slot.Settled base Slot.null := Value.settled_of_cells_eq_nil rfl
  have hereditary : Hereditary ctx σ (.settled base) :=
    Activation.slots_hereditary null programs pure.directives
  have again {template : Instance} {turn : Turn} (same : template.turn ctx σ depth = turn)
      (made : template.MadeOf (.settled base)) :
      turn.Agrees ctx later depth (template.turn ctx later depth) ∧ turn.MadeOf (.settled base) ∧ turn.Steady := by
    rw [← same]
    exact ⟨turn_agrees pure programs early late order made, turn_madeOf hereditary made,
      turn_steady hereditary made⟩
  induction trace generalizing b with
  | @await template stopped c s turn =>
    obtain ⟨agrees, -⟩ := again turn made
    have same : template.turn ctx later depth = stopped.turn ctx later depth := agrees
    rw [step_eq_carryOut, same, ← step_eq_carryOut]
    exact congrArg _ b.add_empty.symm
  | @fail template stopped e s turn =>
    obtain ⟨agrees, -⟩ := again turn made
    have same : template.turn ctx later depth = .fail e stopped := agrees
    rw [step_eq_carryOut, same]
    exact congrArg (StepResult.mk _ _) b.add_empty.symm
  | @refused template output pace next s after e turn append =>
    have accepted := accepting output.text s
    rw [append] at accepted
    cases accepted
  | finished turn takes =>
    obtain ⟨agrees, -⟩ := again turn made
    rw [step_eq_follow agrees (OutputBuffer.takes_add _ b), Output.written_events]
    rfl
  | rested turn takes => exact (again turn made).2.2.elim
  | full turn takes answer =>
    obtain ⟨agrees, -⟩ := again turn made
    rw [step_eq_follow agrees (OutputBuffer.takes_add _ b), SinkEvent.written_append, SinkEvent.written_asked,
      Output.written_events, OutputBuffer.add_append]
    exact congrArg _ (OutputBuffer.add_empty _).symm
  | further turn takes answer rest ih =>
    obtain ⟨agrees, made, -⟩ := again turn made
    rw [step_eq_follow agrees (OutputBuffer.takes_add _ b), SinkEvent.written_append, SinkEvent.written_asked,
      Output.written_events, OutputBuffer.add_append]
    exact ih made.2 _
  | onward turn takes rest ih =>
    obtain ⟨agrees, made, -⟩ := again turn made
    rw [step_eq_follow agrees (OutputBuffer.takes_add _ b), SinkEvent.written_append, Output.written_events,
      OutputBuffer.add_append]
    exact ih made.2 _

end Instance

end TemplateEngine
