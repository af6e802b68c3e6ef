import TemplateEngine.Engine.Basic
import TemplateEngine.Proofs.Pacing

namespace TemplateEngine

/-- The sink never asks for a pause. -/
def Sink.Roomy (S : Type) [Sink S] : Prop := ∀ s : S, (Sink.isFull s).1 = false

namespace RenderState

variable {ctx : RenderContext} {S : Type} [Sink S]

/-- A step that honours the wishes of its sink. -/
structure Considerate (ctx : RenderContext) (x : RenderState S) : Prop where
  /-- Between two texts for the sink it is asked whether it wants a pause, and wants none. -/
  asked : ∀ front text answer between text' answer' later,
    x.events ctx = front ++ .append text answer :: (between ++ .append text' answer' :: later) →
      .asked false ∈ between
  /-- When the sink wants a pause the step ends there and then. -/
  granted : ∀ front later, x.events ctx = front ++ .asked true :: later →
    later = [] ∧ (x.result ctx).outcome = .ok .limited
  /-- The step pauses only because the sink wants it, and with an instruction left that has not been started. -/
  wished : (x.result ctx).outcome = .ok .limited →
    (∃ front, x.events ctx = front ++ [.asked true]) ∧ (x.result ctx).template.Unfinished

theorem paced {p : Parts} {x : RenderState S} (hereditary : Hereditary ctx x.store p) (made : x.template.MadeOf p) :
    ∃ full, Paced x.sink (x.events ctx) full (x.result ctx).sink ∧
      (full = true ↔ (x.result ctx).outcome = .ok .limited) ∧
      ((x.result ctx).outcome = .ok .limited → (x.result ctx).template.Unfinished) :=
  (x.trace ctx).paced hereditary made

theorem considerate (programs : ctx.OnlyPrograms) {x : RenderState S}
    (made : x.template.MadeOf .any) : x.Considerate ctx := by
  obtain ⟨full, paced, pause, unfinished⟩ := x.paced programs.hereditary made
  refine ⟨?_, ?_, ?_⟩
  · intro front text answer between text' answer' later split
    exact paced.asked_between split
  · intro front later split
    obtain ⟨nothing, isFull⟩ := paced.granted split
    exact ⟨nothing, pause.1 isFull⟩
  · intro limited
    obtain rfl := pause.2 limited
    exact ⟨paced.wished.1, unfinished limited⟩

theorem unlimited {p : Parts} {x : RenderState S} (hereditary : Hereditary ctx x.store p)
    (made : x.template.MadeOf p) (roomy : Sink.Roomy S) : (x.result ctx).outcome ≠ .ok .limited := by
  intro limited
  obtain ⟨full, paced, pause, -⟩ := x.paced hereditary made
  obtain rfl := pause.2 limited
  obtain ⟨-, asked, answer⟩ := paced.wished
  have room := roomy asked
  rw [answer] at room
  cases room

theorem not_limited (programs : ctx.OnlyPrograms) (roomy : Sink.Roomy S) {x : RenderState S}
    (made : x.template.MadeOf .any) : (x.result ctx).outcome ≠ .ok .limited :=
  unlimited programs.hereditary made roomy

/-- What a limited buffer holds in a step that finds it empty: at every text appended less than its limit came
before, so it exceeds the limit by less than a single text. -/
def HoldsWithin (ctx : RenderContext) (limit : Nat) (x : RenderState LimitedBuffer) : Prop :=
  (x.result ctx).sink = ⟨SinkEvent.written (x.events ctx), limit⟩ ∧
    ∀ front text answer later, x.events ctx = front ++ .append text answer :: later →
      (SinkEvent.written front).utf8ByteSize ≤ limit - 1

theorem holdsWithin (programs : ctx.OnlyPrograms) {limit : Nat} {x : RenderState LimitedBuffer}
    (made : x.template.MadeOf .any) (drained : x.sink = .new limit) : x.HoldsWithin ctx limit := by
  obtain ⟨full, paced, -⟩ := x.paced programs.hereditary made
  have nothing : x.sink.text = "" := by rw [drained]; rfl
  have bound : x.sink.limit = limit := by rw [drained]; rfl
  obtain ⟨held, within⟩ := paced.limited_within
  simp only [nothing, bound, String.empty_append] at held within
  refine ⟨held, ?_⟩
  intro front text answer later split
  exact within split fun _ => Nat.zero_le _

theorem drained_run (programs : ctx.OnlyPrograms) {start x : RenderState LimitedBuffer}
    {rounds : List (Round LimitedBuffer)} (made : start.template.MadeOf .any)
    (drain : ∀ round ∈ rounds, ∀ b : LimitedBuffer, round.relieve b = b.take.2)
    (member : x ∈ start.run ctx rounds) : x.sink = .new start.sink.limit := by
  have prepared : ∃ before : RenderState LimitedBuffer, ∃ round ∈ rounds,
      (before.template.MadeOf .any ∧ before.sink.limit = start.sink.limit) ∧ x = before.prepare round := by
    refine run_prepared ?_ ?_ member ⟨made, rfl⟩
    · rintro z round among ⟨made, limit⟩
      refine ⟨made, ?_⟩
      rw [prepare, drain round among]
      exact limit
    · rintro z ⟨made, limit⟩
      have course := Instance.course_step ctx z.store ctx.callDepth z.template z.sink
      obtain ⟨full, paced, -⟩ := z.paced programs.hereditary made
      refine ⟨course.madeOf programs.hereditary made, ?_⟩
      rw [resume, paced.limited_within.1]
      exact limit
  obtain ⟨before, round, among, ⟨-, limit⟩, rfl⟩ := prepared
  rw [prepare, drain round among, ← limit]
  rfl

end RenderState

namespace PreparedRender

/-- The handles of a render into a text or into content: that of its first step and those that resuming gives. -/
inductive Buffers (p : PreparedRender) : BufferedRender → Prop
  | text {σ r} (started : p.renderText σ = .ok r) : Buffers p r
  | strict {σ r} (started : p.renderStrict σ = .ok r) : Buffers p r
  | resumed {σ r next} (before : Buffers p r) (resumed : (r.resume σ).1 = .ok next) : Buffers p next

/-- A render into a buffer that is not limited, and that holds a template made of programs. -/
structure Steady (p : PreparedRender) (r : BufferedRender) : Prop where
  context : r.context = p.context
  made : ∀ state ∈ r.handle.handle.state, state.1.MadeOf .any
  unlimited : r.handle.handle.status ≠ .limited

variable {p : PreparedRender} {σ : CellStore}

theorem ofStep_unlimited (programs : p.context.OnlyPrograms) {template : Instance} (made : template.MadeOf .any)
    {b : OutputBuffer} {handle : Handle Instance OutputBuffer}
    (stepped : Handle.ofStep (template.advance p.context σ b) = .ok handle) :
    (∀ state ∈ handle.state, state.1.MadeOf .any) ∧ handle.status ≠ .limited := by
  have roomy : Sink.Roomy OutputBuffer := fun _ => rfl
  have unlimited := RenderState.not_limited programs roomy (x := ⟨σ, template, b⟩) made
  have course := Instance.course_step p.context σ p.context.callDepth template b
  have left := course.madeOf programs.hereditary made
  simp only [RenderState.result] at unlimited
  simp only [Handle.ofStep] at stepped
  cases outcome : (template.advance p.context σ b).outcome with
  | error e => simp [outcome, Except.map] at stepped
  | ok status =>
    simp only [outcome, Except.map, Except.ok.injEq] at stepped
    subst stepped
    refine ⟨?_, ?_⟩
    · rintro state ⟨⟩
      exact left
    · rintro rfl
      exact unlimited outcome

theorem Buffers.steady (programs : p.context.OnlyPrograms) (offered : p.context.Offers p.entry) {r : BufferedRender}
    (buffers : p.Buffers r) : p.Steady r := by
  have made : (p.entry.start p.data p.injected).MadeOf .any := by
    obtain ⟨program, body⟩ := programs p.entry offered
    simp only [TemplateEntry.start, body]
    exact .program trivial
  have started {check : Except ErrorKind Unit} {kind : Option ContentKind} {σ : CellStore} {r : BufferedRender}
      (started : (do
        check.mapError RenderError.ofKind
        let handle ← p.start σ OutputBuffer.empty
        return (⟨p.context, handle, kind⟩ : BufferedRender)) = .ok r) : p.Steady r := by
    cases check with
    | error e => cases started
    | ok _ =>
      cases stepped : p.start σ OutputBuffer.empty with
      | error e => simp [stepped, bind, Except.bind] at started
      | ok handle =>
        simp only [stepped, mapError_ok, bind, Except.bind, pure, Except.pure, Except.ok.injEq] at started
        subst started
        obtain ⟨made, unlimited⟩ := ofStep_unlimited programs made stepped
        exact ⟨rfl, made, unlimited⟩
  induction buffers with
  | text given => exact started given
  | strict given => exact started given
  | @resumed σ r next before resumed ih =>
    obtain ⟨context, ⟨⟨status, state⟩, kind⟩⟩ := r
    obtain ⟨rfl, made, -⟩ := ih
    simp only [BufferedRender.resume, BufferedHandle.resume, Handle.resume] at resumed
    split at resumed
    · cases resumed
    · cases state with
      | none => cases resumed
      | some state =>
        obtain ⟨template, b⟩ := state
        cases stepped : Handle.ofStep (template.advance p.context σ b) with
        | error e => simp [stepped, Except.map] at resumed
        | ok handle =>
          simp only [stepped, Except.map, Except.ok.injEq] at resumed
          subst resumed
          obtain ⟨made, unlimited⟩ := ofStep_unlimited programs (made _ rfl) stepped
          exact ⟨rfl, made, unlimited⟩

end PreparedRender

/-- Steps honour the wishes of their sinks at every depth of calls. Hence a render into a sink that never asks
for a pause is never limited, and a limited buffer that is drained before every step holds less than its limit
and a single text. -/
theorem RenderContext.honours_backpressure (ctx : RenderContext) (programs : ctx.OnlyPrograms) :
    (∀ {S : Type} [Sink S] (start : RenderState S) (rounds : List (Round S)),
        start.template.MadeOf .any → ∀ x ∈ start.run ctx rounds,
          x.Considerate ctx ∧ (Sink.Roomy S → (x.result ctx).outcome ≠ .ok .limited)) ∧
      (∀ p : PreparedRender, p.context = ctx → ctx.Offers p.entry → ∀ r, p.Buffers r →
        r.handle.handle.status ≠ .limited) ∧
      ∀ (start : RenderState LimitedBuffer) (rounds : List (Round LimitedBuffer)),
        start.template.MadeOf .any → (∀ round ∈ rounds, ∀ b, round.relieve b = b.take.2) →
          ∀ x ∈ start.run ctx rounds, x.HoldsWithin ctx start.sink.limit := by
  refine ⟨?_, ?_, ?_⟩
  · intro S _ start rounds made x member
    have made := RenderState.run_madeOf (fun _ => programs.hereditary) member made
    exact ⟨RenderState.considerate programs made, fun roomy => RenderState.not_limited programs roomy made⟩
  · rintro p rfl offered r buffers
    exact (buffers.steady programs offered).unlimited
  · intro start rounds made drain x member
    have empty := RenderState.drained_run programs made drain member
    exact RenderState.holdsWithin programs (RenderState.run_madeOf (fun _ => programs.hereditary) member made) empty

/-- A text of two pieces. -/
def pairProgram : Program := ⟨"pair", [⟨.text "a", none⟩, ⟨.text "b", none⟩]⟩

/-- Text around a call of the other. -/
def framedProgram : Program :=
  ⟨"framed", [⟨.text "<", none⟩, ⟨.call "pair" .none, none⟩, ⟨.text ">", none⟩]⟩

/-- The render of a call between two texts into a buffer for one byte, which makes a step of every text. -/
theorem honours_backpressure_framed :
    let ctx := RenderContext.ofPrograms [pairProgram, framedProgram] 2
    let start : RenderState LimitedBuffer :=
      ⟨.empty, .program ⟨"framed", framedProgram.steps, .empty, .empty⟩ none, .new 1⟩
    let run := start.run ctx (List.replicate 5 ⟨[], fun b => b.take.2⟩)
    (run.map fun x => (x.result ctx).sink.text) = ["<", "a", "b", ">"] ∧
      (∀ x ∈ run, x.Considerate ctx) ∧ ∀ x ∈ run, x.HoldsWithin ctx 1 := by
  intro ctx start run
  have programs : ctx.OnlyPrograms := RenderContext.onlyPrograms_ofPrograms _ _
  obtain ⟨considerate, -, within⟩ := ctx.honours_backpressure programs
  refine ⟨by decide, fun x member => (considerate start _ (.program trivial) x member).1, ?_⟩
  refine within start _ (.program trivial) ?_
  intro round member b
  rw [(List.mem_replicate.mp member).2]

end TemplateEngine
