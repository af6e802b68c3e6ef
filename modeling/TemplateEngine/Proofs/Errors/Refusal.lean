import TemplateEngine.Proofs.Errors.CallStack
import TemplateEngine.Proofs.Trace

namespace TemplateEngine

/-- What a sink is asked is answered, and at most the last text is refused, for the reason given. -/
inductive Answered (reason : SinkError → Prop) : List SinkEvent → Prop
  | nothing : Answered reason []
  | asked {full log} (later : Answered reason log) : Answered reason (.asked full :: log)
  | accepted {text log} (later : Answered reason log) : Answered reason (.append text (.ok ()) :: log)
  | refused {text e} (ended : reason e) : Answered reason [.append text (.error e)]

variable {ctx : RenderContext} {σ : CellStore} {depth : Nat} {S : Type} [Sink S] {reason : SinkError → Prop}

theorem Answered.refusal {log : List SinkEvent} (answered : Answered reason log) {text : String} {e : SinkError}
    (member : .append text (.error e) ∈ log) : (∃ front, log = front ++ [.append text (.error e)]) ∧ reason e := by
  induction answered with
  | nothing => cases member
  | asked later ih | accepted later ih =>
    obtain ⟨⟨front, rfl⟩, ended⟩ := ih (by simpa using member)
    exact ⟨⟨_ :: front, rfl⟩, ended⟩
  | refused ended =>
    obtain ⟨rfl, rfl⟩ : text = _ ∧ e = _ := by simpa using member
    exact ⟨⟨[], rfl⟩, ended⟩

theorem Answered.events {log : List SinkEvent} (output : Option Output) (answered : Answered reason log) :
    Answered reason (Output.events output ++ log) := by
  cases output with
  | none => exact answered
  | some output => exact .accepted answered

/-- A step that a sink refuses a text fails with what the template makes of it. -/
theorem Instance.Trace.answered {template : Instance} {s : S} {log : List SinkEvent} {result : StepResult Instance S}
    (trace : template.Trace ctx σ depth s log result) :
    Answered (fun e => result.outcome = .error (result.template.refusal e)) log := by
  induction trace with
  | await turn | fail turn => exact .nothing
  | @refused template output pace next s after e turn append =>
    have traced := turn_traced ctx σ depth template
    rw [turn] at traced
    exact .refused (by rw [traced.1 output rfl])
  | @finished template output next s after turn takes | @rested template output next s after turn takes =>
    rw [← List.append_nil (Output.events output)]
    exact Answered.nothing.events output
  | full turn takes answer => exact (Answered.asked .nothing).events _
  | further turn takes answer later ih => exact (Answered.asked ih).events _
  | onward turn takes later ih => exact ih.events _

namespace RenderState

/-- The sink refuses a text in a step. -/
structure Refused (ctx : RenderContext) (x : RenderState S) (text : String) (e : SinkError) : Prop where
  /-- The refused text is the last thing that is asked of the sink. -/
  last : ∃ front, x.events ctx = front ++ [.append text (.error e)]
  /-- The step fails, with a frame for every program on the call stack. -/
  failed : (x.result ctx).outcome = .error
    ⟨if (x.result ctx).template.atMessage then .message (.sink e) else .sink e, (x.result ctx).template.stack⟩
  cause : ∀ err, (x.result ctx).outcome = .error err → err.kind.cause? = some e

theorem refused (x : RenderState S) {text : String} {e : SinkError}
    (refused : .append text (.error e) ∈ x.events ctx) : x.Refused ctx text e := by
  obtain ⟨last, outcome⟩ := (x.trace ctx).answered.refusal refused
  refine ⟨last, outcome, fun err failed => ?_⟩
  obtain rfl := Except.error.inj (outcome.symm.trans failed)
  exact (x.result ctx).template.refusal_cause e

end RenderState

/-- Whenever a sink refuses a text the step fails at once, and the error carries what the sink has said: as a failure
of a message if one was to be written, and in all other cases as a failure of the sink. -/
theorem RenderContext.refusals_reported (ctx : RenderContext) (start : RenderState S) (rounds : List (Round S)) :
    ∀ x ∈ start.run ctx rounds, ∀ text e, .append text (.error e) ∈ x.events ctx → x.Refused ctx text e := by
  intro x _ text e refused
  exact x.refused refused

/-- A greeting that is a message, with a line of its own. -/
def letterProgram : Program :=
  ⟨"letter", [⟨.text "To Ann: ", none⟩, ⟨.message 1 (some ⟨1, none, [.text "Hello"]⟩) [], some ⟨2, 3⟩⟩]⟩

def envelopeProgram : Program := ⟨"envelope", [⟨.call "letter" .none, some ⟨7, 1⟩⟩]⟩

/-- A letter in an envelope, and room for the address alone. -/
def envelopeRender : RenderState CappedBuffer :=
  ⟨.empty, .program ⟨"envelope", envelopeProgram.steps, .empty, .empty⟩ none, .new 8⟩

/-- The error that the message is refused with has the frames of the letter and of the envelope around it. -/
theorem refusals_reported_envelope :
    let ctx := RenderContext.ofPrograms [letterProgram, envelopeProgram] 2
    ∀ x ∈ envelopeRender.run ctx [⟨[], id⟩],
      x.events ctx = [.append "To Ann: " (.ok ()), .asked false, .append "Hello" (.error ⟨"sink full"⟩)] ∧
        x.Refused ctx "Hello" ⟨"sink full"⟩ ∧
        (x.result ctx).template.stack = [⟨"letter", some ⟨2, 3⟩⟩, ⟨"envelope", some ⟨7, 1⟩⟩] := by
  intro ctx x member
  have reported := ctx.refusals_reported envelopeRender [⟨[], id⟩] x member "Hello" ⟨"sink full"⟩
  obtain rfl : x = envelopeRender.prepare ⟨[], id⟩ := by simpa [RenderState.run] using member
  have events : (envelopeRender.prepare ⟨[], id⟩).events ctx =
      [.append "To Ann: " (.ok ()), .asked false, .append "Hello" (.error ⟨"sink full"⟩)] := by rfl
  exact ⟨events, reported (by simp [events]), by rfl⟩

/-- A refused message is not reported as a failure of the sink. -/
theorem message_refusal_wrapped :
    let ctx := RenderContext.ofPrograms [letterProgram] 1
    let x : RenderState CappedBuffer :=
      ⟨.empty, .program ⟨"letter", letterProgram.steps, .empty, .empty⟩ none, .new 8⟩
    (∃ front, x.events ctx = front ++ [.append "Hello" (.error ⟨"sink full"⟩)]) ∧
      (x.result ctx).outcome = .error ⟨.message (.sink ⟨"sink full"⟩), [⟨"letter", some ⟨2, 3⟩⟩]⟩ ∧
      ∀ err, (x.result ctx).outcome = .error err → err.kind ≠ .sink ⟨"sink full"⟩ := by
  intro ctx x
  have outcome : (x.result ctx).outcome = .error ⟨.message (.sink ⟨"sink full"⟩), [⟨"letter", some ⟨2, 3⟩⟩]⟩ := by rfl
  refine ⟨⟨[.append "To Ann: " (.ok ()), .asked false], by rfl⟩, outcome, ?_⟩
  intro err failed
  rw [outcome] at failed
  cases failed
  simp

end TemplateEngine
