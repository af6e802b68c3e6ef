import Mathlib.Data.List.Forall2
import TemplateEngine.Proofs.Errors.CallStack
import TemplateEngine.Proofs.Errors.TurnMoves
import TemplateEngine.Proofs.Escaped.Nested
import TemplateEngine.Proofs.Injected.Mentions
import TemplateEngine.Proofs.Trace

namespace TemplateEngine

variable {ctx : RenderContext} {σ : CellStore} {depth : Nat} {p : Parts} {S : Type} [Sink S]

/-- The text that a sink holds can be seen. It grows by what the sink takes, and by nothing else. -/
structure Sink.Shows {S : Type} [Sink S] (view : S → String) : Prop where
  appended : ∀ text s after, Sink.append text s = (.ok (), after) → view after = view s ++ text
  refused : ∀ text s e after, Sink.append text s = (.error e, after) → view after = view s
  asked : ∀ s, view (Sink.isFull s).2 = view s

namespace Instance

/-- The sink refuses the output of the instruction at hand, as the last thing that it is asked. -/
def Refuses (ctx : RenderContext) (σ : CellStore) (depth : Nat) (template : Instance) (e : RenderError)
    (log : List SinkEvent) : Prop :=
  ∃ finished after reason, template.Move ctx σ depth [finished] after ∧ e.kind.cause? = some reason ∧
    log.getLast? = some (.append finished.text (.error reason))

/-- Where a step has come to when it stops: to the end, to what is left for the next step, or to an instruction that
is not finished. An error has the frames of the call stack there, behind those that it was raised with. -/
def Stops (ctx : RenderContext) (σ : CellStore) (depth : Nat) (last left : Instance) (log : List SinkEvent) :
    Except RenderError Status → Prop
  | .ok .done => last.Ended
  | .ok _ => last = left
  | .error e =>
    (∃ raised, last.Fails ctx σ depth raised ∧ e = raised.withFrames (last.backtrace depth)) ∨
      last.Refuses ctx σ depth e log ∧ e.frames = last.backtrace depth

theorem Stops.prepend {last left : Instance} {log : List SinkEvent} {outcome : Except RenderError Status}
    (stops : Stops ctx σ depth last left log outcome) (front : List SinkEvent) :
    Stops ctx σ depth last left (front ++ log) outcome := by
  match outcome, stops with
  | .ok .done, ended => exact ended
  | .ok .limited, same | .ok (.detached _), same => exact same
  | .error e, .inl fails => exact .inl fails
  | .error e, .inr ⟨⟨finished, after, reason, move, cause, text⟩, frames⟩ =>
    exact .inr ⟨⟨finished, after, reason, move, cause, by rw [List.getLast?_append, text]; rfl⟩, frames⟩

/-- A step writes the outputs of the instructions that it finishes. -/
theorem Trace.finishes (hereditary : Hereditary ctx σ p) {template : Instance} {s : S} {log : List SinkEvent}
    {result : StepResult Instance S} (trace : template.Trace ctx σ depth s log result) (made : template.MadeOf p) :
    ∃ done last, SinkEvent.written log = Finished.total done ∧ template.Moves ctx σ depth done last ∧
      Stops ctx σ depth last result.template log result.outcome := by
  have turned {template : Instance} {turn : Turn} (same : template.turn ctx σ depth = turn) (made : template.MadeOf p) :
      turn.Finishes ctx σ depth template ∧ turn.MadeOf p :=
    ⟨same ▸ turn_finishes hereditary made, same ▸ turn_madeOf hereditary made⟩
  induction trace with
  | await turn =>
    obtain ⟨moves, -⟩ := turned turn made
    exact ⟨[], _, rfl, moves, rfl⟩
  | fail turn =>
    obtain ⟨⟨last, raised, moves, fails⟩, -⟩ := turned turn made
    exact ⟨[], last, rfl, moves, .inl ⟨raised, fails⟩⟩
  | @refused template output pace next s after e turn append =>
    obtain ⟨⟨-, -, -, -, offers, -⟩, -⟩ := turned turn made
    obtain ⟨here, finished, afterwards, moves, move, text, frames⟩ := offers output rfl
    have traced := turn_traced ctx σ depth template
    rw [turn] at traced
    refine ⟨[], here, rfl, moves, .inr ⟨⟨finished, afterwards, e, move, ?_, by simp [text]⟩, frames e⟩⟩
    rw [traced.1 output rfl]
    exact output.retry.refusal_cause e
  | finished turn takes =>
    obtain ⟨⟨done, last, moves, total, -, ended⟩, -⟩ := turned turn made
    exact ⟨done, last, (Output.written_events _).trans total.symm, moves, ended⟩
  | rested turn takes =>
    obtain ⟨⟨done, last, moves, total, -, left⟩, -⟩ := turned turn made
    exact ⟨done, last, (Output.written_events _).trans total.symm, moves, left⟩
  | full turn takes answer =>
    obtain ⟨⟨done, last, moves, total, -, left⟩, -⟩ := turned turn made
    refine ⟨done, last, ?_, moves, left⟩
    rw [SinkEvent.written_append, SinkEvent.written_asked, Output.written_events, total]
    exact String.append_empty
  | @further template output next s after asked log result turn takes answer later ih =>
    obtain ⟨⟨done, last, moves, total, -, left⟩, made⟩ := turned turn made
    obtain rfl : last = next := left
    obtain ⟨done', last', written, moves', stops⟩ := ih made.2
    refine ⟨done ++ done', last', ?_, moves.trans moves', (stops.prepend [.asked false]).prepend _⟩
    rw [SinkEvent.written_append, SinkEvent.written_asked, Output.written_events, written, Finished.total_append, total]
  | @onward template output next s after log result turn takes later ih =>
    obtain ⟨⟨done, last, moves, total, -, left⟩, made⟩ := turned turn made
    obtain rfl : last = next := left
    obtain ⟨done', last', written, moves', stops⟩ := ih made.2
    refine ⟨done ++ done', last', ?_, moves.trans moves', stops.prepend _⟩
    rw [SinkEvent.written_append, Output.written_events, written, Finished.total_append, total]

/-- What a sink shows grows by what it is written to have taken. -/
theorem Trace.shown {view : S → String} (shows : Sink.Shows view) {template : Instance} {s : S} {log : List SinkEvent}
    {result : StepResult Instance S} (trace : template.Trace ctx σ depth s log result) :
    view result.sink = view s ++ SinkEvent.written log := by
  have taken {output : Option Output} {s after : S} (takes : Sink.Takes output s after) :
      view after = view s ++ SinkEvent.written (Output.events output) := by
    rw [Output.written_events]
    cases output with
    | none =>
      obtain rfl : after = s := takes
      exact String.append_empty.symm
    | some output => exact shows.appended _ _ _ takes
  have same {s asked : S} {full : Bool} (answer : Sink.isFull s = (full, asked)) : view asked = view s := by
    rw [← shows.asked s, answer]
  induction trace with
  | await turn | fail turn => exact String.append_empty.symm
  | refused turn append =>
    rw [shows.refused _ _ _ _ append]
    exact String.append_empty.symm
  | finished turn takes | rested turn takes => exact taken takes
  | full turn takes answer =>
    rw [same answer, taken takes, SinkEvent.written_append, SinkEvent.written_asked]
    exact (congrArg _ String.append_empty).symm
  | further turn takes answer later ih =>
    rw [ih, same answer, taken takes, SinkEvent.written_append, SinkEvent.written_asked, String.append_assoc]
  | onward turn takes later ih => rw [ih, taken takes, SinkEvent.written_append, String.append_assoc]

end Instance

namespace RenderState

/-- The instructions that a step finishes, and the point that it comes to with them. -/
structure Finishes (ctx : RenderContext) (x : RenderState S) (done : List Finished) (last : Instance) : Prop where
  moves : x.template.Moves ctx x.store ctx.callDepth done last
  written : SinkEvent.written (x.events ctx) = Finished.total done
  stops : Instance.Stops ctx x.store ctx.callDepth last (x.result ctx).template (x.events ctx) (x.result ctx).outcome
  /-- Where the step fails of its own accord, nothing else can have been finished before. -/
  only : ∀ raised, last.Fails ctx x.store ctx.callDepth raised →
    ∀ others other, x.template.Moves ctx x.store ctx.callDepth others other → others <+: done
  shown : ∀ view : S → String, Sink.Shows view → view (x.result ctx).sink = view x.sink ++ Finished.total done

theorem exists_finishes (programs : ctx.OnlyPrograms) {x : RenderState S} (made : x.template.MadeOf .any) :
    ∃ done last, x.Finishes ctx done last := by
  obtain ⟨done, last, written, moves, stops⟩ := (x.trace ctx).finishes programs.hereditary made
  refine ⟨done, last, moves, written, stops, fun raised fails others other => moves.prefix_of_fails fails, ?_⟩
  intro view shows
  rw [← written]
  exact (x.trace ctx).shown shows

end RenderState

/-- In every step of a run the sink is given the outputs of the instructions that the step finishes, whole and in
their order, and nothing of an instruction at which the step fails. -/
theorem RenderContext.outputs_whole (ctx : RenderContext) (programs : ctx.OnlyPrograms) (start : RenderState S)
    (rounds : List (Round S)) (made : start.template.MadeOf .any) :
    ∃ outputs : List (List Finished),
      List.Forall₂ (fun x done => ∃ last, x.Finishes ctx done last) (start.run ctx rounds) outputs ∧
        RenderState.written ctx (start.run ctx rounds) = Finished.total outputs.flatten := by
  have all : ∀ x ∈ start.run ctx rounds, ∃ done last, x.Finishes ctx done last := fun x member =>
    RenderState.exists_finishes programs (RenderState.run_madeOf (fun _ => programs.hereditary) member made)
  generalize start.run ctx rounds = run at all
  induction run with
  | nil => exact ⟨[], .nil, rfl⟩
  | cons x run ih =>
    obtain ⟨done, last, finishes⟩ := all x List.mem_cons_self
    obtain ⟨outputs, steps, written⟩ := ih fun y member => all y (List.mem_cons_of_mem x member)
    refine ⟨done :: outputs, .cons ⟨last, finishes⟩ steps, ?_⟩
    rw [List.flatten_cons, Finished.total_append, ← written, ← finishes.written]
    simp [RenderState.written]

theorem noteContext_onlyPrograms : noteContext.OnlyPrograms := by
  let note : TemplateEntry := ⟨"note", default, .program ⟨"note",
    [⟨.text "<", none⟩, ⟨.print (.param "name") [], none⟩, ⟨.text ">", none⟩]⟩⟩
  have added : DelegateTable.empty.add "note" "" "" note = .ok noteContext.delegates.table := rfl
  rintro entry (registered | ⟨name, variant, selected⟩)
  · exact RenderContext.onlyPrograms_ofPrograms [] 3 entry (.inl registered)
  · have member := DelegateView.mem_implementations_of_select? selected
    rcases DelegateTable.mem_implementations_add added member with rfl | nothing
    · exact ⟨_, rfl⟩
    · cases nothing

/-- The call waits for the name, which then is lost. The bracket before it has been written behind the directive, and
never reaches the sink. -/
theorem outputs_whole_note :
    let start : RenderState OutputBuffer :=
      ⟨⟨[⟨"name", .pending⟩]⟩,
        .program ⟨"letter", [⟨.text "Dear ", none⟩, ⟨.delegateCall noteCall, none⟩], .empty, .empty⟩ none, .empty⟩
    let run := start.run noteContext [⟨[], id⟩, ⟨[.fail ⟨0⟩ "lost"], id⟩]
    (run.map fun x => (x.result noteContext).outcome.toOption) = [some (.detached ⟨0⟩), none] ∧
      ∃ outputs : List (List Finished),
        List.Forall₂ (fun x done => ∃ last, x.Finishes noteContext done last) run outputs ∧
          Finished.total outputs.flatten = "Dear " := by
  intro start run
  obtain ⟨outputs, steps, written⟩ :=
    noteContext.outputs_whole noteContext_onlyPrograms start [⟨[], id⟩, ⟨[.fail ⟨0⟩ "lost"], id⟩] (.program trivial)
  exact ⟨by decide, outputs, steps, by rw [← written]; rfl⟩

end TemplateEngine
