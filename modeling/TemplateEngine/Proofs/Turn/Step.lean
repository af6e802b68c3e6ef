import TemplateEngine.Proofs.Turn.Basic

namespace TemplateEngine

variable {S : Type} [Sink S]

namespace Activation

/-- A run reads the instructions from its argument, and only the name and the data from the activation. -/
theorem run_withTodo (ctx : RenderContext) (σ : CellStore)
    (advance : Instance → S → StepResult Instance S) (frame : Activation) (todo steps : List Step)
    (callee : Option Instance) (s : S) :
    run ctx σ advance { frame with todo := todo } steps callee s = run ctx σ advance frame steps callee s := by
  induction steps generalizing callee s with
  | nil => rfl
  | cons first rest ih => simp only [run, ih]

/-- What a program makes of a step of its callee. -/
def afterCallee (ctx : RenderContext) (σ : CellStore) (depth : Nat) (frame : Activation) (first : Step)
    (rest : List Step) : StepResult Instance S → StepResult Instance S
  | ⟨.ok .done, _, s⟩ => (frame.complete rest none none).carryOut (Instance.step ctx σ (depth + 1)) s
  | ⟨.ok status, callee, s⟩ => ⟨.ok status, .program { frame with todo := first :: rest } (some callee), s⟩
  | ⟨.error e, callee, s⟩ =>
    ⟨.error (e.withFrame frame.name first.position),
      .program { frame with todo := first :: rest } (some callee), s⟩

/-- After an instruction a program ends, or pauses if the sink asks for it, or goes on. -/
theorem carryOut_complete (ctx : RenderContext) (σ : CellStore) (depth : Nat) (frame : Activation)
    (rest : List Step) (callee : Option Instance) (s : S) :
    (frame.complete rest callee none).carryOut (Instance.step ctx σ (depth + 1)) s =
      if rest.isEmpty then ⟨.ok .done, .program { frame with todo := [] } callee, s⟩
      else
        match Sink.isFull s with
        | (true, s) => ⟨.ok .limited, .program { frame with todo := rest } callee, s⟩
        | (false, s) => frame.run ctx σ (Instance.step ctx σ depth) rest callee s := by
  cases rest with
  | nil => rfl
  | cons second rest =>
    obtain ⟨full, after, asked⟩ : ∃ full after, Sink.isFull s = (full, after) := ⟨_, _, rfl⟩
    cases full <;> simp [complete, Turn.carryOut, Pace.follow, asked, Instance.step, run_withTodo]

theorem carryOut_complete_some (goOn : Instance → S → StepResult Instance S) (frame : Activation)
    (rest : List Step) (callee : Option Instance) (output : Output) (s : S) :
    (frame.complete rest callee (some output)).carryOut goOn s =
      match Sink.append output.text s with
      | (.error e, s) => ⟨.error (output.refusal e), output.retry, s⟩
      | (.ok (), s) => (frame.complete rest callee none).carryOut goOn s := rfl

/-- A call whose callee is in flight goes on with it. -/
theorem run_inFlight (ctx : RenderContext) (σ : CellStore) (depth : Nat) (frame : Activation) {first : Step}
    (rest : List Step) {slot : Option Instance} {callee : Instance} (running : first.inFlight slot = some callee)
    (s : S) :
    frame.run ctx σ (Instance.step ctx σ depth) (first :: rest) slot s =
      frame.afterCallee ctx σ depth first rest (callee.step ctx σ depth s) := by
  simp only [run, running]
  rcases callee.step ctx σ depth s with ⟨e | status, template, sink⟩
  · rfl
  · cases status with
    | done => exact (carryOut_complete ctx σ depth frame rest none sink).symm
    | limited => rfl
    | detached c => rfl

/-- While the callee goes on it stays in flight. -/
theorem relay_unfinished (frame : Activation) (first : Step) (rest : List Step) (output : Option Output)
    (next : Instance) {pace : Pace} (unfinished : pace ≠ .finished) :
    frame.relay first rest (.act output pace next) =
      .act (output.map (frame.relayOutput first rest)) pace
        (.program { frame with todo := first :: rest } (some next)) := by
  cases pace with
  | finished => exact absurd rfl unfinished
  | asking | onward | resting => rfl

/-- A program whose callee is in flight does what its callee does, and goes on when the callee is done. -/
theorem carryOut_relay (ctx : RenderContext) (σ : CellStore) (depth : Nat) (frame : Activation) {first : Step}
    (calls : first.instruction.calls = true) (rest : List Step) (turn : Turn) (s : S) :
    (frame.relay first rest turn).carryOut (Instance.step ctx σ (depth + 1)) s =
      frame.afterCallee ctx σ depth first rest (turn.carryOut (Instance.step ctx σ depth) s) := by
  have follow (pace : Pace) (next : Instance) (s : S) (unfinished : pace ≠ .finished) :
      pace.follow (Instance.step ctx σ (depth + 1))
          (.program { frame with todo := first :: rest } (some next)) s =
        frame.afterCallee ctx σ depth first rest (pace.follow (Instance.step ctx σ depth) next s) := by
    have goOn (s : S) : Instance.step ctx σ (depth + 1)
        (.program { frame with todo := first :: rest } (some next)) s =
          frame.afterCallee ctx σ depth first rest (next.step ctx σ depth s) := by
      rw [Instance.step, run_withTodo, run_inFlight ctx σ depth frame rest (Step.inFlight_of_calls calls _)]
    cases pace with
    | finished => exact absurd rfl unfinished
    | asking =>
      simp only [Pace.follow, goOn]
      rcases Sink.isFull s with ⟨_ | _, s⟩ <;> rfl
    | onward => exact goOn s
    | resting => rfl
  cases turn with
  | await c callee => rfl
  | fail e callee => rfl
  | act output pace next =>
    by_cases finished : pace = .finished
    · subst finished
      cases output with
      | none => rfl
      | some output =>
        simp only [relay, Turn.carryOut, complete, Option.map, relayOutput]
        rcases Sink.append output.text s with ⟨_ | _, s⟩ <;> rfl
    · rw [relay_unfinished frame first rest output next finished]
      cases output with
      | none => exact follow pace next s finished
      | some output =>
        simp only [Turn.carryOut, Option.map, relayOutput]
        rcases Sink.append output.text s with ⟨_ | _, s⟩
        · rfl
        · exact follow pace next s finished

theorem run_eq_carryOut (ctx : RenderContext) (σ : CellStore) (depth : Nat)
    (unfold : ∀ (callee : Instance) (s : S), callee.step ctx σ depth s =
      (callee.turn ctx σ depth).carryOut (Instance.step ctx σ depth) s)
    (frame : Activation) (steps : List Step) (callee : Option Instance) (s : S) :
    frame.run ctx σ (Instance.step ctx σ depth) steps callee s =
      (frame.turn ctx σ (Instance.turn ctx σ depth) steps callee).carryOut
        (Instance.step ctx σ (depth + 1)) s := by
  cases steps with
  | nil => rfl
  | cons first rest =>
    have relayed {callee : Instance} (calls : first.instruction.calls = true) (s : S) :
        frame.afterCallee ctx σ depth first rest (callee.step ctx σ depth s) =
          (frame.relay first rest (callee.turn ctx σ depth)).carryOut (Instance.step ctx σ (depth + 1)) s := by
      rw [carryOut_relay ctx σ depth frame calls, unfold]
    cases running : first.inFlight callee with
    | some inFlight =>
      rw [run_inFlight ctx σ depth frame rest running, relayed (Step.inFlight_eq_some.mp running).1]
      simp only [turn, running]
    | none =>
      have written (refusal : SinkError → ErrorKind) (text : String) :
          (match Sink.append text s with
            | (.error e, s) =>
              (⟨.error ((RenderError.ofKind (refusal e)).withFrame frame.name first.position),
                .program { frame with todo := first :: rest } callee, s⟩ : StepResult Instance S)
            | (.ok (), s) =>
              if rest.isEmpty then ⟨.ok .done, .program { frame with todo := [] } callee, s⟩
              else
                match Sink.isFull s with
                | (true, s) => ⟨.ok .limited, .program { frame with todo := rest } callee, s⟩
                | (false, s) => frame.run ctx σ (Instance.step ctx σ depth) rest callee s) =
            (frame.complete rest callee (some (frame.output first rest callee refusal text))).carryOut
              (Instance.step ctx σ (depth + 1)) s := by
        rw [carryOut_complete_some]
        simp only [output]
        rcases Sink.append text s with ⟨e | _, s⟩
        · rfl
        · exact (carryOut_complete ctx σ depth frame rest callee s).symm
      simp only [run, turn, running]
      cases does : first.instruction.effect ctx σ frame.params frame.injected with
      | error obstacle => cases obstacle <;> rfl
      | ok effect =>
        cases effect with
        | write text => exact written .sink text
        | writeMessage text => exact written (fun e => .message (.sink e)) text
        | silent => exact (carryOut_complete ctx σ depth frame rest callee s).symm
        | enter started =>
          have calls := Instruction.calls_of_enter does
          have unfolded := run_inFlight ctx σ depth frame rest (Step.inFlight_of_calls calls (some started)) s
          simp only [run, Step.inFlight_of_calls calls] at unfolded
          exact unfolded.trans (relayed calls s)

end Activation

namespace Escaped

/-- What a wrapper makes of a step of the template inside. -/
def afterInner (σ : CellStore) (w : Escaped Instance) (goOn : Instance → S → StepResult Instance S) (s : S) :
    StepResult Instance OutputBuffer → StepResult Instance S
  | ⟨.ok .done, inner, buffer⟩ => ({ w with inner := inner, buffer := buffer }.deliver σ).carryOut goOn s
  | ⟨outcome, inner, buffer⟩ => ⟨outcome, .escaped { w with inner := inner, buffer := buffer }, s⟩

theorem step_escaped (ctx : RenderContext) (σ : CellStore) (depth : Nat) (w : Escaped Instance) (s : S) :
    Instance.step ctx σ (depth + 1) (.escaped w) s =
      w.afterInner σ (Instance.step ctx σ (depth + 1)) s (w.inner.step ctx σ depth w.buffer) := by
  simp only [Instance.step, step]
  rcases w.inner.step ctx σ depth w.buffer with ⟨e | status, inner, buffer⟩
  · rfl
  · cases status with
    | limited => rfl
    | detached c => rfl
    | done =>
      simp only [afterInner, deliver, finish]
      cases (PrintDirective.applyAll σ w.directives (w.kind.elim (.string buffer.take.1)
        fun kind => .sanitized ⟨buffer.take.1, kind⟩)).map σ.text with
      | error e => rfl
      | ok text =>
        simp only [Turn.carryOut]
        rcases Sink.append text s with ⟨_ | _, s⟩ <;> rfl

/-- A wrapper does what the template inside does, and hands over the output when that one is done. -/
theorem carryOut_turn (ctx : RenderContext) (σ : CellStore) (depth : Nat) (w : Escaped Instance) (turn : Turn)
    (s : S) :
    (w.turn σ turn).carryOut (Instance.step ctx σ (depth + 1)) s =
      w.afterInner σ (Instance.step ctx σ (depth + 1)) s
        (turn.carryOut (Instance.step ctx σ depth) w.buffer) := by
  cases turn with
  | await c inner => rfl
  | fail e inner => rfl
  | act output pace next =>
    have written : (Turn.act output pace next).carryOut (Instance.step ctx σ depth) w.buffer =
        pace.follow (Instance.step ctx σ depth) next (w.collect output next).buffer := by
      cases output <;> rfl
    have goOn : Instance.step ctx σ (depth + 1) (.escaped (w.collect output next)) s =
        w.afterInner σ (Instance.step ctx σ (depth + 1)) s
          (next.step ctx σ depth (w.collect output next).buffer) := by
      rw [step_escaped, show (w.collect output next).inner = next from rfl]
      rcases next.step ctx σ depth (w.collect output next).buffer with ⟨e | status, inner, buffer⟩
      · rfl
      · cases status <;> rfl
    rw [written]
    cases pace with
    | finished => rfl
    | resting => rfl
    | onward => exact goOn
    | asking => exact goOn

end Escaped

namespace Instance

/-- A step is a turn and the turns that follow it. -/
theorem step_eq_carryOut (ctx : RenderContext) (σ : CellStore) (depth : Nat) (template : Instance) (s : S) :
    template.step ctx σ depth s = (template.turn ctx σ depth).carryOut (step ctx σ depth) s := by
  induction depth generalizing S template s with
  | zero => rfl
  | succ depth ih =>
    cases template with
    | empty => rfl
    | chunks rest =>
      cases rest with
      | nil => rfl
      | cons text rest =>
        simp only [step, turn, stepChunks, turnChunks, Turn.carryOut]
        rcases Sink.append text s with ⟨_ | _, s⟩
        · rfl
        · cases rest <;> rfl
    | program frame callee =>
      exact frame.run_eq_carryOut ctx σ depth (fun callee s => ih callee s) frame.todo callee s
    | escaped w => rw [Escaped.step_escaped, turn, Escaped.carryOut_turn, ih]

end Instance

end TemplateEngine
