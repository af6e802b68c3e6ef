import TemplateEngine.Proofs.Errors.CallStack
import TemplateEngine.Proofs.Errors.Moves
import TemplateEngine.Proofs.Templates

namespace TemplateEngine

variable {ctx : RenderContext} {σ : CellStore} {depth : Nat} {p : Parts}

/-- An error with the frames of a call stack behind those that it was raised with. -/
def RenderError.withFrames (raised : RenderError) (frames : List TemplateFrame) : RenderError :=
  { raised with frames := raised.frames ++ frames }

@[simp] theorem RenderError.withFrames_nil (raised : RenderError) : raised.withFrames [] = raised := by
  rw [withFrames, List.append_nil]

/-- What a turn finishes of a template. A text is offered to the sink where the instruction that it belongs to is
still to be finished, and errors have the call stack of the point where they are raised. -/
def Turn.Finishes (ctx : RenderContext) (σ : CellStore) (depth : Nat) (template : Instance) : Turn → Prop
  | .await _ stopped => template.Moves ctx σ depth [] stopped
  | .fail e _ => ∃ last raised, template.Moves ctx σ depth [] last ∧ last.Fails ctx σ depth raised ∧
      e = raised.withFrames (last.backtrace depth)
  | .act output pace next => ∃ done last, template.Moves ctx σ depth done last ∧
      Finished.total done = Output.textOf output ∧
      (∀ given ∈ output, ∃ here finished after, template.Moves ctx σ depth [] here ∧
        here.Move ctx σ depth [finished] after ∧ finished.text = given.text ∧
        ∀ reason, (given.refusal reason).frames = here.backtrace depth) ∧
      if pace = .finished then last.Ended else last = next

/-- Nothing of a template that has ended is on the call stack. -/
theorem Instance.Ended.running {template : Instance} (ended : template.Ended) (room : Nat) :
    template.running room = [] := by
  cases room with
  | zero => rfl
  | succ room =>
    cases ended with
    | empty => rfl
    | @program frame callee nothing =>
      obtain ⟨name, todo, params, injected⟩ := frame
      obtain rfl : todo = [] := nothing
      cases callee <;> rfl

/-- A template that silently comes to another finishes what that one does. -/
theorem Turn.Finishes.after {template next : Instance} {turn : Turn} (before : template.Moves ctx σ depth [] next)
    (finishes : turn.Finishes ctx σ depth next) : turn.Finishes ctx σ depth template := by
  have silently {last : Instance} {done : List Finished} (moves : next.Moves ctx σ depth done last) :
      template.Moves ctx σ depth done last := before.trans moves
  cases turn with
  | await c stopped => exact silently finishes
  | fail e stopped =>
    obtain ⟨last, raised, moves, fails, frames⟩ := finishes
    exact ⟨last, raised, silently moves, fails, frames⟩
  | act output pace next =>
    obtain ⟨done, last, moves, total, offers, end'⟩ := finishes
    refine ⟨done, last, silently moves, total, fun given member => ?_, end'⟩
    obtain ⟨here, finished, after, moves, move, text, frames⟩ := offers given member
    exact ⟨here, finished, after, silently moves, move, text, frames⟩

namespace Activation

/-- An instruction of the program itself is finished by one turn. -/
theorem complete_finishes {frame : Activation} {first : Step} {rest : List Step} {slot : Option Instance}
    {output : Option Output} (idle : first.inFlight slot = none)
    (prints : first.instruction.Prints ctx σ frame.params frame.injected (Output.textOf output))
    (refused : ∀ given ∈ output, ∀ reason, (given.refusal reason).frames = [⟨frame.name, first.position⟩]) :
    (frame.complete rest slot output).Finishes ctx σ (depth + 1)
      (.program { frame with todo := first :: rest } slot) := by
  have move : Instance.Move ctx σ (depth + 1) (.program { frame with todo := first :: rest } slot)
      [.printed first.instruction (Output.textOf output)] (.program { frame with todo := rest } slot) :=
    .print rfl idle prints
  refine ⟨_, _, move.moves, by simp [Finished.total, Finished.text], ?_, ?_⟩
  · rintro given rfl
    refine ⟨_, _, _, .here, move, rfl, fun reason => ?_⟩
    rw [refused given rfl reason, Instance.backtrace, Instance.running_idle idle]
    rfl
  · cases rest with
    | nil => exact .program rfl
    | cons second rest => rfl

/-- A call is finished with its callee, whose outputs are written in its place. -/
theorem relay_finishes {frame : Activation} {first : Step} (calls : first.instruction.calls = true)
    {rest : List Step} {callee : Instance}
    (finishes : (callee.turn ctx σ depth).Finishes ctx σ depth callee) :
    (frame.relay first rest (callee.turn ctx σ depth)).Finishes ctx σ (depth + 1)
      (.program { frame with todo := first :: rest } (some callee)) := by
  have below (point : Instance) : point.backtrace depth ++ [⟨frame.name, first.position⟩] =
      Instance.backtrace (depth + 1) (.program { frame with todo := first :: rest } (some point)) := by
    simp [Instance.backtrace, Instance.running_calling calls, Activation.place]
  cases turn : callee.turn ctx σ depth with
  | await c stopped =>
    rw [turn] at finishes
    exact Instance.Moves.inside finishes rfl calls
  | fail e stopped =>
    rw [turn] at finishes
    obtain ⟨last, raised, moves, fails, rfl⟩ := finishes
    refine ⟨_, raised, moves.inside rfl calls, .inside rfl calls fails, ?_⟩
    rw [← below, RenderError.withFrames, RenderError.withFrames, RenderError.withFrame, List.append_assoc]
  | act output pace next =>
    rw [turn] at finishes
    obtain ⟨done, last, moves, total, offers, end'⟩ := finishes
    have text : Output.textOf (output.map (frame.relayOutput first rest)) = Output.textOf output := by
      cases output <;> rfl
    have relayed : ∀ given ∈ output.map (frame.relayOutput first rest), ∃ here finished after,
        Instance.Moves ctx σ (depth + 1) (.program { frame with todo := first :: rest } (some callee)) [] here ∧
          here.Move ctx σ (depth + 1) [finished] after ∧ finished.text = given.text ∧
          ∀ reason, (given.refusal reason).frames = here.backtrace (depth + 1) := by
      intro given member
      obtain ⟨inner, found, rfl⟩ := Option.map_eq_some_iff.mp member
      obtain ⟨here, finished, after, moves, move, text, frames⟩ := offers inner found
      refine ⟨_, finished, _, moves.inside rfl calls, .inside rfl calls move, text, fun reason => ?_⟩
      rw [← below, ← frames reason]
      rfl
    by_cases ended : pace = .finished
    · subst ended
      cases depth with
      | zero => simp [Instance.turn] at turn
      | succ depth =>
        have leave : Instance.Move ctx σ (depth + 2) (.program { frame with todo := first :: rest } (some last)) []
            (.program { frame with todo := rest } none) := .leave rfl calls end'
        refine ⟨_, _, (moves.inside rfl calls).trans leave.moves, by rw [List.append_nil, total, text], relayed, ?_⟩
        cases rest with
        | nil => exact .program rfl
        | cons second rest => rfl
    · rw [frame.relay_unfinished first rest output next ended]
      rw [if_neg ended] at end'
      subst end'
      exact ⟨done, _, moves.inside rfl calls, total.trans text.symm, relayed, by rw [if_neg ended]⟩

theorem turn_finishes (hereditary : Hereditary ctx σ p)
    (callees : ∀ callee : Instance, callee.MadeOf p → (callee.turn ctx σ depth).Finishes ctx σ depth callee)
    {frame : Activation} {steps : List Step} {callee : Option Instance}
    (made : Instance.MadeOf p (.program { frame with todo := steps } callee)) :
    (frame.turn ctx σ (Instance.turn ctx σ depth) steps callee).Finishes ctx σ (depth + 1)
      (.program { frame with todo := steps } callee) := by
  cases steps with
  | nil => exact ⟨[], _, .here, rfl, by simp, .program rfl⟩
  | cons first rest =>
    cases running : first.inFlight callee with
    | some inFlight =>
      obtain ⟨calls, rfl⟩ := Step.inFlight_eq_some.mp running
      rw [turn_inFlight ctx σ _ frame rest running]
      exact relay_finishes calls (callees _ made.callee)
    | none =>
      simp only [turn, running]
      cases work : first.instruction.effect ctx σ frame.params frame.injected with
      | error obstacle =>
        cases obstacle with
        | awaits c => exact .here
        | fails e =>
          refine ⟨_, e, .here, .instruction rfl running work, ?_⟩
          rw [Instance.backtrace, Instance.running_idle running]
          rfl
      | ok effect =>
        cases effect with
        | enter started =>
          have enter : Instance.Move ctx σ (depth + 1) (.program { frame with todo := first :: rest } callee) []
              (.program { frame with todo := first :: rest } (some started)) := .enter rfl running work
          have made := callees started (hereditary.enter made.frame work)
          exact (relay_finishes (Instruction.calls_of_enter work) made).after enter.moves
        | silent => exact complete_finishes running (Instruction.prints_of_effect work rfl).1 (by simp)
        | write text | writeMessage text =>
          refine complete_finishes running (Instruction.prints_of_effect work rfl).1 ?_
          rintro _ ⟨⟩ reason
          rfl

end Activation

namespace Escaped

variable {w : Escaped Instance}

/-- What is collected behind directives is all that has been written there. -/
theorem moves_collect {next : Instance} {done : List Finished} {output : Option Output}
    (moves : w.inner.Moves ctx σ depth done next) (total : Finished.total done = Output.textOf output) :
    Instance.Moves ctx σ (depth + 1) (.escaped w) [] (.escaped (w.collect output next)) := by
  have collected : w.collect output next =
      ⟨next, w.directives, w.kind, ⟨w.buffer.text ++ Finished.total done⟩⟩ := by
    rw [total]
    cases output with
    | none => simp [collect, Output.textOf]
    | some output => rfl
  rw [collected]
  exact moves.collect w.directives w.kind w.buffer.text

/-- Once the template inside has ended, its output passes through the directives or the call fails. -/
theorem deliver_finishes (w : Escaped Instance) {last : Instance} (ended : last.Ended) :
    (w.deliver σ).Finishes ctx σ (depth + 2) (.escaped { w with inner := last }) := by
  have finish : { w with buffer := w.buffer.take.2 }.finish σ w.buffer.take.1 =
      (output σ w.directives w.kind w.buffer.text).map σ.text := rfl
  have outside : Instance.backtrace (depth + 2) (.escaped { w with inner := last }) = [] := by
    simp [Instance.backtrace, Instance.running, ended.running]
  simp only [deliver, finish]
  cases passes : output σ w.directives w.kind w.buffer.text with
  | error e => exact ⟨_, e, .here, .directives ended passes, by rw [outside, RenderError.withFrames_nil]⟩
  | ok value =>
    have move : Instance.Move ctx σ (depth + 2) (.escaped { w with inner := last })
        [.delivered w.buffer.text (σ.text value)] .empty := .deliver ended passes
    refine ⟨_, _, move.moves, by simp [Finished.total, Finished.text, Output.textOf], ?_, .empty⟩
    rintro _ ⟨⟩
    exact ⟨_, _, _, .here, move, rfl, fun reason => outside.symm⟩

theorem turn_finishes (finishes : (w.inner.turn ctx σ depth).Finishes ctx σ depth w.inner) :
    (w.turn σ (w.inner.turn ctx σ depth)).Finishes ctx σ (depth + 1) (.escaped w) := by
  cases turn : w.inner.turn ctx σ depth with
  | await c stopped =>
    rw [turn] at finishes
    have collected : Instance.Moves ctx σ (depth + 1) (.escaped w) [] (.escaped (w.collect none stopped)) :=
      moves_collect finishes rfl
    exact collected
  | fail e stopped =>
    rw [turn] at finishes
    obtain ⟨last, raised, moves, fails, frames⟩ := finishes
    have collected : Instance.Moves ctx σ (depth + 1) (.escaped w) [] (.escaped (w.collect none last)) :=
      moves_collect moves rfl
    exact ⟨_, raised, collected, .behind fails, frames⟩
  | act output pace next =>
    rw [turn] at finishes
    obtain ⟨done, last, moves, total, -, end'⟩ := finishes
    have collected := moves_collect moves total
    by_cases ended : pace = .finished
    · subst ended
      cases depth with
      | zero => simp [Instance.turn] at turn
      | succ depth =>
        exact (deliver_finishes (w.collect output next) end').after collected
    · rw [if_neg ended] at end'
      subst end'
      have onward (pace : Pace) (unfinished : pace ≠ .finished) :
          (Turn.act none pace (.escaped (w.collect output last))).Finishes ctx σ (depth + 1) (.escaped w) :=
        ⟨[], _, collected, rfl, by simp, by rw [if_neg unfinished]⟩
      cases pace with
      | finished => exact absurd rfl ended
      | resting => exact onward _ ended
      | asking | onward => exact onward .onward (by simp)

end Escaped

/-- Every turn of a template made of programs finishes what its output says, and nothing else. -/
theorem Instance.turn_finishes (hereditary : Hereditary ctx σ p) {template : Instance} (made : template.MadeOf p) :
    (template.turn ctx σ depth).Finishes ctx σ depth template := by
  induction depth generalizing template with
  | zero => exact ⟨template, _, .here, .tooDeep, rfl⟩
  | succ depth ih =>
    cases template with
    | empty => exact ⟨[], .empty, .here, rfl, by simp, .empty⟩
    | chunks rest => cases made
    | program frame callee => exact Activation.turn_finishes hereditary (fun _ made => ih made) made
    | escaped w =>
      cases made with
      | escaped _ inside => exact Escaped.turn_finishes (ih inside)

end TemplateEngine
