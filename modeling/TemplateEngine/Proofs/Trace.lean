import TemplateEngine.Proofs.Recorder

namespace TemplateEngine

variable {S : Type} [Sink S]

namespace Instance

/-- A step from a template and a sink to its result, with the events between it and the sink. -/
inductive Trace (ctx : RenderContext) (σ : CellStore) (depth : Nat) :
    Instance → S → List SinkEvent → StepResult Instance S → Prop
  | await {template stopped c s} (turn : template.turn ctx σ depth = .await c stopped) :
      Trace ctx σ depth template s [] ⟨.ok (.detached c), stopped, s⟩
  | fail {template stopped e s} (turn : template.turn ctx σ depth = .fail e stopped) :
      Trace ctx σ depth template s [] ⟨.error e, stopped, s⟩
  | refused {template output pace next s after e}
      (turn : template.turn ctx σ depth = .act (some output) pace next)
      (append : Sink.append output.text s = (.error e, after)) :
      Trace ctx σ depth template s [.append output.text (.error e)] ⟨.error (output.refusal e), output.retry, after⟩
  | finished {template output next s after} (turn : template.turn ctx σ depth = .act output .finished next)
      (takes : Sink.Takes output s after) :
      Trace ctx σ depth template s (Output.events output) ⟨.ok .done, next, after⟩
  | rested {template output next s after} (turn : template.turn ctx σ depth = .act output .resting next)
      (takes : Sink.Takes output s after) :
      Trace ctx σ depth template s (Output.events output) ⟨.ok .limited, next, after⟩
  | full {template output next s after asked} (turn : template.turn ctx σ depth = .act output .asking next)
      (takes : Sink.Takes output s after) (answer : Sink.isFull after = (true, asked)) :
      Trace ctx σ depth template s (Output.events output ++ [.asked true]) ⟨.ok .limited, next, asked⟩
  | further {template output next s after asked log result}
      (turn : template.turn ctx σ depth = .act output .asking next) (takes : Sink.Takes output s after)
      (answer : Sink.isFull after = (false, asked)) (later : Trace ctx σ depth next asked log result) :
      Trace ctx σ depth template s (Output.events output ++ .asked false :: log) result
  | onward {template output next s after log result}
      (turn : template.turn ctx σ depth = .act output .onward next) (takes : Sink.Takes output s after)
      (later : Trace ctx σ depth next after log result) :
      Trace ctx σ depth template s (Output.events output ++ log) result

/-- A recorder writes down the events of a step. -/
theorem Course.trace {ctx : RenderContext} {σ : CellStore} {depth : Nat} {template : Instance} {r : Recorder S}
    {result : StepResult Instance (Recorder S)} (course : template.Course ctx σ depth r result) :
    ∃ log, result.sink.log = r.log ++ log ∧
      template.Trace ctx σ depth r.sink log ⟨result.outcome, result.template, result.sink.sink⟩ := by
  have seen {output : Option Output} {r after : Recorder S} (takes : Sink.Takes output r after) :
      Sink.Takes output r.sink after.sink := Recorder.projects.takes takes
  have asks {r asked : Recorder S} {full : Bool} (answer : Sink.isFull r = (full, asked)) :
      Sink.isFull r.sink = (full, asked.sink) := by
    rw [Recorder.projects.isFull, answer]
  induction course with
  | await turn => exact ⟨[], (List.append_nil _).symm, .await turn⟩
  | fail turn => exact ⟨[], (List.append_nil _).symm, .fail turn⟩
  | @refused template output pace next r after e turn append =>
    have logged : after.log = r.log ++ [.append output.text (.error e)] := by
      simp only [Sink.append, Prod.mk.injEq] at append
      obtain ⟨refused, rfl⟩ := append
      rw [refused]
    refine ⟨_, logged, .refused turn ?_⟩
    rw [Recorder.projects.append, append]
  | finished turn takes => exact ⟨_, Recorder.takes_events takes, .finished turn (seen takes)⟩
  | rested turn takes => exact ⟨_, Recorder.takes_events takes, .rested turn (seen takes)⟩
  | full turn takes answer =>
    refine ⟨_, ?_, .full turn (seen takes) (asks answer)⟩
    rw [Recorder.isFull_log answer, Recorder.takes_events takes, List.append_assoc]
  | further turn takes answer later ih =>
    obtain ⟨log, logged, trace⟩ := ih
    refine ⟨_, ?_, .further turn (seen takes) (asks answer) trace⟩
    rw [logged, Recorder.isFull_log answer, Recorder.takes_events takes]
    simp
  | onward turn takes later ih =>
    obtain ⟨log, logged, trace⟩ := ih
    exact ⟨_, by rw [logged, Recorder.takes_events takes, List.append_assoc], .onward turn (seen takes) trace⟩

end Instance

theorem RenderState.trace (ctx : RenderContext) (x : RenderState S) :
    x.template.Trace ctx x.store ctx.callDepth x.sink (x.events ctx) (x.result ctx) := by
  have course := Instance.course_step ctx x.store ctx.callDepth x.template (Recorder.watch x.sink)
  obtain ⟨log, logged, trace⟩ := course.trace
  obtain rfl : x.events ctx = log := logged
  rw [x.result_eq_watched]
  exact trace

end TemplateEngine
