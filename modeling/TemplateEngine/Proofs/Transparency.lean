import TemplateEngine.Proofs.Detach
import TemplateEngine.Proofs.Replay

namespace TemplateEngine

namespace RenderState

variable {ctx : RenderContext} {base : CellStore} {S : Type} [Sink S]

def RoundsSettled (base : CellStore) (rounds : List (Round S)) : Prop :=
  ∀ round ∈ rounds, ∀ completion ∈ round.completions, completion.Settled base

theorem store_extends {rounds : List (Round S)} (settled : RoundsSettled base rounds) {x y : RenderState S}
    (member : y ∈ x.run ctx rounds) (extended : base.Extends x.store) : base.Extends y.store :=
  run_induction (p := fun z => base.Extends z.store)
    (fun _ round among extended => extended.applyAll (settled round among)) (fun _ extended => extended)
    member extended

/-- A step, and the same template rendered into a buffer when more is known. -/
theorem replay (accepting : Sink.Accepting S) (pure : ctx.Pure) (programs : ctx.Programs (Slot.Settled base))
    {x : RenderState S} {later : CellStore} (early : base.Extends x.store) (late : base.Extends later)
    (order : x.store.Precedes later) (made : x.template.MadeOf (.settled base)) (b : OutputBuffer) :
    x.template.advance ctx later b =
      (x.result ctx).goOn (Instance.advance ctx later) (b.add (SinkEvent.written (x.events ctx))) :=
  (x.trace ctx).replay accepting pure programs early late order made b

/-- A run, and its template rendered into a buffer with what is known at the last step. -/
theorem run_replay (accepting : Sink.Accepting S) (pure : ctx.Pure) (programs : ctx.Programs (Slot.Settled base))
    {rounds : List (Round S)} (settled : RoundsSettled base rounds) {x last : RenderState S}
    {front : List (RenderState S)} (run : x.run ctx rounds = front ++ [last]) (extended : base.Extends x.store)
    (made : x.template.MadeOf (.settled base)) (b : OutputBuffer) :
    x.template.advance ctx last.store b =
      (last.result ctx).goOn (Instance.advance ctx last.store) (b.add (written ctx (front ++ [last]))) := by
  induction rounds generalizing x front b with
  | nil => simp [RenderState.run] at run
  | cons round rounds ih =>
    have among : last ∈ x.run ctx (round :: rounds) := by
      rw [run]
      exact List.mem_append_right front (List.mem_singleton_self last)
    have late := store_extends settled among extended
    have here : base.Extends (x.prepare round).store := extended.applyAll (settled round List.mem_cons_self)
    cases front with
    | nil =>
      obtain ⟨rfl, -⟩ := List.cons.inj run
      have alone : written ctx ([] ++ [x.prepare round]) = SinkEvent.written ((x.prepare round).events ctx) := by
        simp [written]
      rw [alone]
      exact replay accepting pure programs here here (.refl _) made b
    | cons first front =>
      obtain ⟨rfl, rest⟩ := List.cons.inj run
      split at rest
      next resumable =>
        have later : last ∈ ((x.prepare round).resume ctx).run ctx rounds := by
          rw [rest]
          exact List.mem_append_right front (List.mem_singleton_self last)
        have order : ((x.prepare round).resume ctx).store.Precedes last.store := store_precedes later
        have null : Slot.Settled base Slot.null := Value.settled_of_cells_eq_nil rfl
        have course := Instance.course_step ctx (x.prepare round).store ctx.callDepth x.template
          (x.prepare round).sink
        have left := course.madeOf (Activation.slots_hereditary null programs pure.directives) made
        have step := replay (x := x.prepare round) accepting pure programs here late order made b
        rw [StepResult.goOn, if_pos resumable] at step
        have others := ih (fun round member => settled round (List.mem_cons_of_mem _ member)) rest here left
          (b.add (SinkEvent.written ((x.prepare round).events ctx)))
        have joined : written ctx (x.prepare round :: front ++ [last]) =
            SinkEvent.written ((x.prepare round).events ctx) ++ written ctx (front ++ [last]) := by
          simp [written]
        rw [joined, OutputBuffer.add_append, ← others]
        exact step
      next => simp at rest

/-- Resuming is transparent. Take a render of programs with pure plugins into a sink that accepts all text, with
all cells that lie in lists or records complete at its start. However it is interrupted, and whatever cells are
completed on the way, it has at each step written a part of what a single step writes into a buffer with the cells
as they are then. Unless the step was limited by the sink it has written all of that, and has come to the same
result. -/
theorem resuming_transparent (accepting : Sink.Accepting S) (pure : ctx.Pure) {σ : CellStore}
    (closed : σ.Extends σ) (programs : ctx.Programs (Slot.Settled σ)) {entry : TemplateEntry}
    (offered : ctx.Offers entry) {params injected : Record} (params' : Record.Each (Slot.Settled σ) params)
    (injected' : Record.Each (Slot.Settled σ) injected) (s : S) {rounds : List (Round S)}
    (settled : RoundsSettled σ rounds) {last : RenderState S}
    (final : (run ctx ⟨σ, entry.start params injected, s⟩ rounds).getLast? = some last) :
    (∃ rest, ((entry.start params injected).advance ctx last.store OutputBuffer.empty).sink.text =
        written ctx (run ctx ⟨σ, entry.start params injected, s⟩ rounds) ++ rest) ∧
      ((last.result ctx).outcome ≠ .ok .limited →
        ((entry.start params injected).advance ctx last.store OutputBuffer.empty).outcome =
            (last.result ctx).outcome ∧
          ((entry.start params injected).advance ctx last.store OutputBuffer.empty).sink.text =
            written ctx (run ctx ⟨σ, entry.start params injected, s⟩ rounds)) := by
  obtain ⟨front, run⟩ := List.getLast?_eq_some_iff.mp final
  have made : (entry.start params injected).MadeOf (.settled σ) :=
    entry.start_madeOf programs offered params' injected'
  have replayed := run_replay accepting pure programs settled run closed made OutputBuffer.empty
  have text (w : String) : (OutputBuffer.empty.add w).text = w := String.empty_append
  rw [replayed, ← run]
  cases outcome : (last.result ctx).outcome with
  | error e =>
    rw [StepResult.goOn_of_ended (by rw [StepResult.resumable, outcome])]
    exact ⟨⟨"", by rw [String.append_empty, text]⟩, fun _ => ⟨outcome, text _⟩⟩
  | ok status =>
    cases status with
    | done =>
      rw [StepResult.goOn_of_ended (by rw [StepResult.resumable, outcome])]
      exact ⟨⟨"", by rw [String.append_empty, text]⟩, fun _ => ⟨outcome, text _⟩⟩
    | limited =>
      rw [StepResult.goOn_of_resumable (by rw [StepResult.resumable, outcome])]
      obtain ⟨more, same⟩ := OutputBuffer.exists_step_text ctx last.store ctx.callDepth (last.result ctx).template
        (OutputBuffer.empty.add (written ctx (RenderState.run ctx ⟨σ, entry.start params injected, s⟩ rounds)))
      refine ⟨⟨more, ?_⟩, fun unlimited => absurd rfl unlimited⟩
      rw [Instance.advance, same, OutputBuffer.add, text]
    | detached c =>
      have held := heldUp outcome
      rw [StepResult.goOn_of_resumable (by rw [StepResult.resumable, outcome]),
        held.again last.store (.refl _) held.pending]
      exact ⟨⟨"", by rw [String.append_empty, text]⟩, fun _ => ⟨rfl, text _⟩⟩

/-- A render that is interrupted by its sink, and twice by a missing name, writes what it would write at once. -/
theorem resuming_transparent_greeting :
    let ctx := RenderContext.ofPrograms [greetingProgram] 1
    let template := (⟨"greeting", default, .program greetingProgram⟩ : TemplateEntry).start .empty .empty
    let run := RenderState.run ctx ⟨⟨[⟨"name", .pending⟩]⟩, template, LimitedBuffer.new 1⟩
      [⟨[], id⟩, ⟨[], id⟩, ⟨[], id⟩, ⟨[.set ⟨0⟩ (.string "Ann")], id⟩]
    (run.map fun x => (x.result ctx).outcome.toOption) =
        [some .limited, some (.detached ⟨0⟩), some (.detached ⟨0⟩), some .done] ∧
      ∃ last, run.getLast? = some last ∧
        (template.advance ctx last.store OutputBuffer.empty).sink.text = written ctx run := by
  intro ctx template run
  have accepting : Sink.Accepting LimitedBuffer := fun _ _ => rfl
  have pure : ctx.Pure := by
    refine ⟨fun name function found => ?_, DirectiveTable.builtin_pure⟩
    cases found
  have closed : CellStore.Extends ⟨[⟨"name", .pending⟩]⟩ ⟨[⟨"name", .pending⟩]⟩ := by
    refine ⟨.refl _, fun c v completed => ?_⟩
    obtain ⟨index⟩ := c
    cases index <;> cases completed
  have programs : ctx.Programs (Slot.Settled ⟨[⟨"name", .pending⟩]⟩) := programs_greeting trivial 1
  have offered : ctx.Offers ⟨"greeting", default, .program greetingProgram⟩ := .inl ⟨"greeting", rfl⟩
  have settled : RoundsSettled (S := LimitedBuffer) ⟨[⟨"name", .pending⟩]⟩
      [⟨[], id⟩, ⟨[], id⟩, ⟨[], id⟩, ⟨[.set ⟨0⟩ (.string "Ann")], id⟩] := by
    intro round among completion member
    simp only [List.mem_cons, List.not_mem_nil, or_false] at among
    rcases among with rfl | rfl | rfl | rfl
    · cases member
    · cases member
    · cases member
    · obtain rfl := List.mem_singleton.mp member
      exact Value.settled_of_cells_eq_nil rfl
  have transparent (last : RenderState LimitedBuffer) (final : run.getLast? = some last)
      (unlimited : (last.result ctx).outcome ≠ .ok .limited) :
      (template.advance ctx last.store OutputBuffer.empty).sink.text = written ctx run :=
    ((resuming_transparent accepting pure closed programs offered (.empty _) (.empty _) (LimitedBuffer.new 1) settled
      final).2 unlimited).2
  exact ⟨by decide, _, rfl, transparent _ rfl (by decide)⟩

end RenderState

end TemplateEngine
