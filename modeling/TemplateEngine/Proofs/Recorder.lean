import TemplateEngine.Proofs.Run

namespace TemplateEngine

/-- What is asked of a sink, and what it answers. -/
inductive SinkEvent
  | append (text : String) (answer : Except SinkError Unit)
  | asked (full : Bool)

/-- A sink together with all that has been asked of it. -/
structure Recorder (S : Type) where
  sink : S
  log : List SinkEvent

namespace SinkEvent

def taken : SinkEvent → String
  | .append text (.ok ()) => text
  | _ => ""

def written (log : List SinkEvent) : String := String.join (log.map taken)

theorem written_append (log later : List SinkEvent) : written (log ++ later) = written log ++ written later := by
  rw [written, List.map_append, String.join_append]
  rfl

theorem written_asked (full : Bool) (log : List SinkEvent) : written (.asked full :: log) = written log := by
  simp [written, taken]

end SinkEvent

namespace Output

def textOf (output : Option Output) : String := output.elim "" Output.text

/-- What a sink that takes an output has been asked. -/
def events (output : Option Output) : List SinkEvent := output.elim [] fun output => [.append output.text (.ok ())]

theorem written_events (output : Option Output) : SinkEvent.written (events output) = textOf output := by
  cases output with
  | none => rfl
  | some output => simp [events, textOf, SinkEvent.written, SinkEvent.taken]

end Output

namespace Recorder

variable {S : Type} [Sink S]

instance : Sink (Recorder S) where
  append text r :=
    let result := Sink.append text r.sink
    (result.1, ⟨result.2, r.log ++ [.append text result.1]⟩)
  isFull r :=
    let result := Sink.isFull r.sink
    (result.1, ⟨result.2, r.log ++ [.asked result.1]⟩)

def watch (s : S) : Recorder S := ⟨s, []⟩

/-- What a watched sink has taken is written down. -/
theorem takes_events {output : Option Output} {r after : Recorder S} (takes : Sink.Takes output r after) :
    after.log = r.log ++ Output.events output := by
  cases output with
  | none =>
    obtain rfl : after = r := takes
    exact (List.append_nil _).symm
  | some output =>
    simp only [Sink.Takes, Sink.append, Prod.mk.injEq] at takes
    obtain ⟨answered, rfl⟩ := takes
    rw [answered]
    rfl

theorem isFull_log {r asked : Recorder S} {full : Bool} (answer : Sink.isFull r = (full, asked)) :
    asked.log = r.log ++ [.asked full] := by
  simp only [Sink.isFull, Prod.mk.injEq] at answer
  obtain ⟨rfl, rfl⟩ := answer
  rfl

end Recorder

/-- A projection of sinks that answer alike. -/
structure Sink.Projects {S T : Type} [Sink S] [Sink T] (f : S → T) : Prop where
  append : ∀ text s, Sink.append text (f s) = ((Sink.append text s).1, f (Sink.append text s).2)
  isFull : ∀ s, Sink.isFull (f s) = ((Sink.isFull s).1, f (Sink.isFull s).2)

theorem Recorder.projects {S : Type} [Sink S] : Sink.Projects (Recorder.sink : Recorder S → S) where
  append _ _ := rfl
  isFull _ := rfl

namespace Sink.Projects

variable {S T : Type} [Sink S] [Sink T] {f : S → T}

theorem takes (projects : Sink.Projects f) {output : Option Output} {s after : S}
    (takes : Sink.Takes output s after) : Sink.Takes output (f s) (f after) := by
  cases output with
  | none => exact congrArg f takes
  | some output =>
    simp only [Sink.Takes] at takes ⊢
    rw [projects.append, takes]

end Sink.Projects

namespace Instance

variable {ctx : RenderContext} {σ : CellStore} {depth : Nat} {S T : Type} [Sink S] [Sink T]

theorem step_eq_follow {template next : Instance} {output : Option Output} {pace : Pace} {s after : S}
    (turn : template.turn ctx σ depth = .act output pace next) (takes : Sink.Takes output s after) :
    template.step ctx σ depth s = pace.follow (step ctx σ depth) next after := by
  rw [step_eq_carryOut, turn]
  cases output with
  | none =>
    obtain rfl : after = s := takes
    rfl
  | some output =>
    simp only [Sink.Takes] at takes
    simp only [Turn.carryOut, takes]

/-- A sink determines the course of a step. -/
theorem Course.step_eq {template : Instance} {s : S} {result : StepResult Instance S}
    (course : template.Course ctx σ depth s result) : template.step ctx σ depth s = result := by
  induction course with
  | await turn | fail turn =>
    rw [step_eq_carryOut, turn]
    rfl
  | refused turn append =>
    rw [step_eq_carryOut, turn]
    simp only [Turn.carryOut, append]
  | finished turn takes | rested turn takes => exact step_eq_follow turn takes
  | full turn takes answer =>
    rw [step_eq_follow turn takes]
    simp only [Pace.follow, answer]
  | further turn takes answer later ih =>
    rw [step_eq_follow turn takes]
    simp only [Pace.follow, answer, ih]
  | onward turn takes later ih =>
    rw [step_eq_follow turn takes]
    exact ih

theorem Course.project {f : S → T} (projects : Sink.Projects f) {template : Instance} {s : S}
    {result : StepResult Instance S} (course : template.Course ctx σ depth s result) :
    template.Course ctx σ depth (f s) ⟨result.outcome, result.template, f result.sink⟩ := by
  have asks {s asked : S} {full : Bool} (answer : Sink.isFull s = (full, asked)) :
      Sink.isFull (f s) = (full, f asked) := by rw [projects.isFull, answer]
  induction course with
  | await turn => exact .await turn
  | fail turn => exact .fail turn
  | refused turn append => exact .refused turn (by rw [projects.append, append])
  | finished turn takes => exact .finished turn (projects.takes takes)
  | rested turn takes => exact .rested turn (projects.takes takes)
  | full turn takes answer => exact .full turn (projects.takes takes) (asks answer)
  | further turn takes answer later ih => exact .further turn (projects.takes takes) (asks answer) ih
  | onward turn takes later ih => exact .onward turn (projects.takes takes) ih

/-- A step sees of a sink only what it answers. -/
theorem step_project {f : S → T} (projects : Sink.Projects f) (ctx : RenderContext) (σ : CellStore)
    (depth : Nat) (template : Instance) (s : S) :
    template.step ctx σ depth (f s) =
      ⟨(template.step ctx σ depth s).outcome, (template.step ctx σ depth s).template,
        f (template.step ctx σ depth s).sink⟩ :=
  ((course_step ctx σ depth template s).project projects).step_eq

end Instance

namespace RenderState

variable {S : Type} [Sink S]

def watched (ctx : RenderContext) (x : RenderState S) : StepResult Instance (Recorder S) :=
  x.template.advance ctx x.store (Recorder.watch x.sink)

/-- What the step asks of the sink, and what the sink answers. -/
def events (ctx : RenderContext) (x : RenderState S) : List SinkEvent := (x.watched ctx).sink.log

/-- Watching does not change a step. -/
theorem result_eq_watched (ctx : RenderContext) (x : RenderState S) :
    x.result ctx = ⟨(x.watched ctx).outcome, (x.watched ctx).template, (x.watched ctx).sink.sink⟩ :=
  Instance.step_project Recorder.projects ctx x.store ctx.callDepth x.template (Recorder.watch x.sink)

/-- All text that has been written in the steps of a run. -/
def written (ctx : RenderContext) (run : List (RenderState S)) : String :=
  String.join (run.map fun x => SinkEvent.written (x.events ctx))

end RenderState

end TemplateEngine
