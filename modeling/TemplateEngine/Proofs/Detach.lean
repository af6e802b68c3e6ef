import Mathlib.Data.List.Perm.Subperm
import TemplateEngine.Proofs.Run

namespace TemplateEngine

variable {ctx : RenderContext} {σ : CellStore} {depth : Nat} {c : CellId}

/-- A program awaits a cell at an instruction of its own, or because its callee awaits it. -/
theorem Activation.turn_eq_await {calleeTurn : Instance → Turn} {frame : Activation} {steps : List Step}
    {callee : Option Instance} {stopped : Instance}
    (turn : frame.turn ctx σ calleeTurn steps callee = .await c stopped) :
    ∃ first rest, steps = first :: rest ∧
      ((first.inFlight callee = none ∧
          first.instruction.effect ctx σ frame.params frame.injected = .error (.awaits c) ∧
          stopped = .program { frame with todo := first :: rest } callee) ∨
        first.instruction.calls = true ∧ ∃ callee inner, calleeTurn callee = .await c inner ∧
          stopped = .program { frame with todo := first :: rest } (some inner)) := by
  have relayed {first : Step} {rest : List Step} {callee : Instance}
      (turn : frame.relay first rest (calleeTurn callee) = .await c stopped) :
      ∃ callee inner, calleeTurn callee = .await c inner ∧
        stopped = .program { frame with todo := first :: rest } (some inner) := by
    cases inside : calleeTurn callee with
    | await d inner =>
      simp only [inside, relay, Turn.await.injEq] at turn
      obtain ⟨rfl, rfl⟩ := turn
      exact ⟨callee, inner, inside, rfl⟩
    | fail e inner => simp [inside, relay] at turn
    | act output pace inner => cases pace <;> simp [inside, relay, complete] at turn
  cases steps with
  | nil => simp [Activation.turn] at turn
  | cons first rest =>
    refine ⟨first, rest, rfl, ?_⟩
    cases running : first.inFlight callee with
    | some inFlight =>
      rw [turn_inFlight ctx σ calleeTurn frame rest running] at turn
      exact .inr ⟨(Step.inFlight_eq_some.mp running).1, relayed turn⟩
    | none =>
      rcases frame.turn_idle ctx σ calleeTurn rest running with
        ⟨d, effect, same⟩ | ⟨e, -, same⟩ | ⟨callee, entered, same⟩ | ⟨output, -, same⟩
      · simp only [same, Turn.await.injEq] at turn
        obtain ⟨rfl, rfl⟩ := turn
        exact .inl ⟨rfl, effect, rfl⟩
      · simp [same] at turn
      · exact .inr ⟨Instruction.calls_of_enter entered, relayed (same.symm.trans turn)⟩
      · simp [same, complete] at turn

theorem Escaped.turn_eq_await {w : Escaped Instance} {turn : Turn} {stopped : Instance}
    (wrapped : w.turn σ turn = .await c stopped) :
    ∃ inner, turn = .await c inner ∧ stopped = .escaped { w with inner := inner } := by
  cases turn with
  | await d inner =>
    simp only [Escaped.turn, Turn.await.injEq] at wrapped
    obtain ⟨rfl, rfl⟩ := wrapped
    exact ⟨inner, rfl, rfl⟩
  | fail e inner => simp [Escaped.turn] at wrapped
  | act output pace next =>
    cases pace with
    | asking | onward | resting => simp [Escaped.turn] at wrapped
    | finished =>
      simp only [Escaped.turn, deliver] at wrapped
      split at wrapped <;> simp at wrapped

namespace Instance

/-- Where a turn awaits a cell, the innermost program is at an instruction whose own values come to a halt
at that cell. -/
theorem turn_await_innermost {template stopped : Instance}
    (turn : template.turn ctx σ depth = .await c stopped) :
    ∃ frame first rest, stopped.Innermost frame ∧ frame.todo = first :: rest ∧
      Instruction.Halts σ frame.params frame.injected first.instruction.reads c := by
  induction depth generalizing template stopped with
  | zero => simp [Instance.turn] at turn
  | succ depth ih =>
    cases template with
    | empty => simp [Instance.turn] at turn
    | chunks texts => cases texts <;> simp [Instance.turn, turnChunks] at turn
    | program frame callee =>
      obtain ⟨first, rest, -, ⟨idle, effect, rfl⟩ | ⟨calls, callee, inner, inside, rfl⟩⟩ :=
        Activation.turn_eq_await turn
      · exact ⟨_, first, rest, .program idle, rfl, Instruction.effect_eq_awaits.1 effect⟩
      · obtain ⟨frame', first', rest', innermost, todo, halts⟩ := ih inside
        exact ⟨frame', first', rest', .calling (Step.inFlight_of_calls calls _) innermost, todo, halts⟩
    | escaped w =>
      obtain ⟨inner, inside, rfl⟩ := Escaped.turn_eq_await turn
      obtain ⟨frame, first, rest, innermost, todo, halts⟩ := ih inside
      exact ⟨frame, first, rest, .escaped innermost, todo, halts⟩

/-- A template that awaits a cell awaits it in every later store in which the cell is pending, and nothing of
the template changes. -/
theorem turn_await_later {template stopped : Instance} (turn : template.turn ctx σ depth = .await c stopped)
    {later : CellStore} (order : σ.Precedes later) (pending : later.isReady c = false) :
    stopped.turn ctx later depth = .await c stopped := by
  induction depth generalizing template stopped with
  | zero => simp [Instance.turn] at turn
  | succ depth ih =>
    cases template with
    | empty => simp [Instance.turn] at turn
    | chunks texts => cases texts <;> simp [Instance.turn, turnChunks] at turn
    | program frame callee =>
      obtain ⟨first, rest, -, ⟨idle, effect, rfl⟩ | ⟨calls, callee, inner, inside, rfl⟩⟩ :=
        Activation.turn_eq_await turn
      · have again : first.instruction.effect ctx later frame.params frame.injected = .error (.awaits c) :=
          Instruction.effect_eq_awaits.2 ((Instruction.effect_eq_awaits.1 effect).later order pending)
        simp [Instance.turn, Activation.turn, idle, again]
      · simp [Instance.turn, Activation.turn, Step.inFlight_of_calls calls, ih inside, Activation.relay]
    | escaped w =>
      obtain ⟨inner, inside, rfl⟩ := Escaped.turn_eq_await turn
      simp [Instance.turn, ih inside, Escaped.turn]

/-- A template and a sink come to others by whole turns: by instructions that are completed, one after the
other, without a pause between them. -/
inductive Leads {S : Type} [Sink S] (ctx : RenderContext) (σ : CellStore) (depth : Nat) :
    Instance → S → Instance → S → Prop
  | here {template s} : Leads ctx σ depth template s template s
  | further {template output next s after asked last end'}
      (turn : template.turn ctx σ depth = .act output .asking next) (takes : Sink.Takes output s after)
      (answer : Sink.isFull after = (false, asked)) (later : Leads ctx σ depth next asked last end') :
      Leads ctx σ depth template s last end'
  | onward {template output next s after last end'}
      (turn : template.turn ctx σ depth = .act output .onward next) (takes : Sink.Takes output s after)
      (later : Leads ctx σ depth next after last end') : Leads ctx σ depth template s last end'

/-- A step that ends at a pending cell ends with a turn that awaits it and leaves the sink alone. -/
theorem Course.leads {S : Type} [Sink S] {template : Instance} {s : S} {result : StepResult Instance S}
    (course : template.Course ctx σ depth s result) (detached : result.outcome = .ok (.detached c)) :
    ∃ last, template.Leads ctx σ depth s last result.sink ∧
      last.turn ctx σ depth = .await c result.template := by
  induction course with
  | await turn =>
    obtain rfl : _ = c := by simpa using detached
    exact ⟨_, .here, turn⟩
  | fail turn | refused turn append | finished turn takes | rested turn takes | full turn takes answer =>
    simp at detached
  | further turn takes answer later ih =>
    obtain ⟨last, leads, await⟩ := ih detached
    exact ⟨last, .further turn takes answer leads, await⟩
  | onward turn takes later ih =>
    obtain ⟨last, leads, await⟩ := ih detached
    exact ⟨last, .onward turn takes leads, await⟩

end Instance

def StepResult.awaited {τ S : Type} (result : StepResult τ S) : Option CellId :=
  match result.outcome with
  | .ok status => status.awaited
  | .error _ => none

/-- A slot refers to no other cells than those that a store has made. -/
def Slot.MadeBy (σ : CellStore) : Slot → Prop
  | .ready _ => True
  | .deferred c => c.index < σ.size

namespace RenderState

variable {S : Type} [Sink S]

/-- A step that is held up by a pending cell. -/
structure HeldUp (ctx : RenderContext) (x : RenderState S) (c : CellId) : Prop where
  pending : x.store.isReady c = false
  /-- Of the values that the current instruction of the innermost program reads, the cell is the first that is
  pending; what the instruction only hands on to a callee does not count. -/
  first : ∃ frame first rest, (x.result ctx).template.Innermost frame ∧ frame.todo = first :: rest ∧
    (∀ name data, first.instruction ≠ .call name data) ∧
    first.instruction.reads.findSome? (fun ref => (ref.slot frame.params frame.injected).awaits x.store) = some c
  /-- The instruction has written nothing: the sink is as the instructions before it have left it. -/
  unwritten : ∃ last, x.template.Leads ctx x.store ctx.callDepth x.sink last (x.result ctx).sink ∧
    last.turn ctx x.store ctx.callDepth = .await c (x.result ctx).template
  /-- The next step gives the same result and changes nothing while the cell is pending, whatever other cells
  have been completed and whichever sink it is given. -/
  again : ∀ later, x.store.Precedes later → later.isReady c = false → ∀ {T : Type} [Sink T] (t : T),
    (x.result ctx).template.advance ctx later t = ⟨.ok (.detached c), (x.result ctx).template, t⟩

theorem heldUp {x : RenderState S} (detached : (x.result ctx).outcome = .ok (.detached c)) : x.HeldUp ctx c := by
  obtain ⟨last, leads, await⟩ :=
    (Instance.course_step ctx x.store ctx.callDepth x.template x.sink).leads detached
  obtain ⟨frame, first, rest, innermost, todo, halts⟩ := Instance.turn_await_innermost await
  refine ⟨halts.pending, ⟨frame, first, rest, innermost, todo, ?_, halts.first⟩, ⟨last, leads, await⟩, ?_⟩
  · intro name data call
    obtain ⟨before, ref, after, split, -⟩ := halts
    simp [call, Instruction.reads] at split
  · intro later order pending T _ t
    have same : (x.result ctx).template.turn ctx later ctx.callDepth = .await c (x.result ctx).template :=
      Instance.turn_await_later await order pending
    rw [Instance.advance, Instance.step_eq_carryOut, same]
    rfl

def awaited (ctx : RenderContext) (run : List (RenderState S)) : List CellId :=
  run.filterMap fun x => (x.result ctx).awaited

/-- Every step that is held up is followed by a step that finds the awaited cell completed. -/
def Patient (ctx : RenderContext) (run : List (RenderState S)) : Prop :=
  run.IsChain fun x y => ∀ c, (x.result ctx).outcome = .ok (.detached c) → y.store.isReady c = true

theorem mem_awaited {run : List (RenderState S)} {c : CellId} :
    c ∈ awaited ctx run ↔ ∃ x ∈ run, (x.result ctx).outcome = .ok (.detached c) := by
  simp only [awaited, List.mem_filterMap, StepResult.awaited]
  refine exists_congr fun x => and_congr_right fun _ => ?_
  rcases (x.result ctx).outcome with e | _ | _ | d <;> simp [Status.awaited]

/-- Once a cell is completed no later step of the run is held up by it. -/
theorem not_heldUp_after (ctx : RenderContext) (start : RenderState S) (rounds : List (Round S)) :
    (start.run ctx rounds).Pairwise fun x y =>
      ∀ c, x.store.isReady c = true → (y.result ctx).outcome ≠ .ok (.detached c) := by
  refine (run_pairwise start rounds).imp fun {x y} order c ready detached => ?_
  have pending := (heldUp detached).pending
  simp [order.ready ready] at pending

theorem Patient.pairwise {run : List (RenderState S)} (patient : Patient ctx run)
    (ordered : run.Pairwise fun x y => x.store.Precedes y.store) :
    run.Pairwise fun x y => ∀ c, (x.result ctx).outcome = .ok (.detached c) → y.store.isReady c = true := by
  induction run with
  | nil => exact .nil
  | cons x run ih =>
    obtain ⟨after, ordered⟩ := List.pairwise_cons.mp ordered
    cases run with
    | nil => simp
    | cons y run =>
      obtain ⟨next, patient⟩ := List.isChain_cons_cons.mp patient
      refine .cons (fun z member c detached => ?_) (ih patient ordered)
      rcases List.mem_cons.mp member with rfl | member
      · exact next c detached
      · exact ((List.pairwise_cons.mp ordered).1 z member).ready (next c detached)

theorem awaited_nodup {start : RenderState S} {rounds : List (Round S)}
    (patient : Patient ctx (start.run ctx rounds)) : (awaited ctx (start.run ctx rounds)).Nodup := by
  rw [awaited, List.Nodup, List.pairwise_filterMap]
  refine (patient.pairwise (run_pairwise start rounds)).imp fun {x y} completed c first d second same => ?_
  have detached {z : RenderState S} {c : CellId} (awaited : (z.result ctx).awaited = some c) :
      (z.result ctx).outcome = .ok (.detached c) := by
    obtain ⟨w, member, detached⟩ := mem_awaited.1 (List.mem_filterMap.mpr ⟨z, List.mem_singleton_self z, awaited⟩)
    rwa [List.mem_singleton.mp member] at detached
  subst same
  have ready := completed c (detached first)
  rw [(heldUp (detached second)).pending] at ready
  cases ready

theorem awaited_pending {start : RenderState S} {rounds : List (Round S)}
    (programs : ctx.Programs (Slot.MadeBy start.store))
    (made : start.template.MadeOf (.slots (Slot.MadeBy start.store))) {c : CellId}
    (member : c ∈ awaited ctx (start.run ctx rounds)) : c ∈ start.store.pendingCells := by
  obtain ⟨x, step, detached⟩ := mem_awaited.1 member
  have held := heldUp detached
  have hereditary (σ : CellStore) : Hereditary ctx σ (.slots (Slot.MadeBy start.store)) :=
    Activation.slots_hereditary trivial programs fun _ _ _ => trivial
  have left := (Instance.course_step ctx x.store ctx.callDepth x.template x.sink).madeOf (hereditary x.store)
    (run_madeOf hereditary step made)
  obtain ⟨frame, first, rest, innermost, todo, -, found⟩ := held.first
  obtain ⟨ref, reads, waiting⟩ := List.exists_of_findSome?_eq_some found
  have slots := left.innermost innermost
  have literal := (slots.literals first (by simp [todo])).reads ref reads
  have inside := literal.slot trivial slots.params slots.injected
  rw [(Slot.awaits_eq_some.1 waiting).1] at inside
  have pending := (store_precedes step).pending held.pending
  simp only [CellStore.pendingCells, List.mem_filter, List.mem_map, List.mem_range]
  exact ⟨⟨c.index, inside, rfl⟩, by simp [pending]⟩

/-- Renders are held up by pending values honestly, stably and only on demand. A patient run is held up at
most once for every cell that is pending at its start. -/
theorem detach_honest (ctx : RenderContext) (start : RenderState S) (rounds : List (Round S)) :
    (∀ x ∈ start.run ctx rounds, ∀ c, (x.result ctx).outcome = .ok (.detached c) → x.HeldUp ctx c) ∧
      ((start.run ctx rounds).Pairwise fun x y =>
        ∀ c, x.store.isReady c = true → (y.result ctx).outcome ≠ .ok (.detached c)) ∧
      (ctx.Programs (Slot.MadeBy start.store) →
        start.template.MadeOf (.slots (Slot.MadeBy start.store)) →
        Patient ctx (start.run ctx rounds) →
        (awaited ctx (start.run ctx rounds)).length ≤ start.store.pendingCells.length) := by
  refine ⟨fun x _ c detached => heldUp detached, not_heldUp_after ctx start rounds, ?_⟩
  intro programs made patient
  have distinct := awaited_nodup patient
  exact (List.subperm_of_subset distinct fun c member => awaited_pending programs made member).length_le

/-- The render of a greeting is held up once, and goes on when the name is known. -/
theorem detach_honest_greeting :
    let ctx := RenderContext.ofPrograms [greetingProgram] 1
    let start : RenderState OutputBuffer :=
      ⟨⟨[⟨"name", .pending⟩]⟩, .program ⟨"greeting", greetingProgram.steps, .empty, .empty⟩ none, .empty⟩
    let run := start.run ctx [⟨[], id⟩, ⟨[.set ⟨0⟩ (.string "Ann")], id⟩]
    (run.map fun x => (x.result ctx).outcome.toOption) = [some (.detached ⟨0⟩), some .done] ∧
      (∀ x ∈ run, ∀ c, (x.result ctx).outcome = .ok (.detached c) → x.HeldUp ctx c) ∧
      (awaited ctx run).length ≤ start.store.pendingCells.length := by
  intro ctx start run
  obtain ⟨honest, -, bounded⟩ := detach_honest ctx start [⟨[], id⟩, ⟨[.set ⟨0⟩ (.string "Ann")], id⟩]
  have patient : Patient ctx run := by
    refine .cons_cons ?_ (.singleton _)
    intro c detached
    have name : c = ⟨0⟩ := by
      cases detached
      rfl
    rw [name]
    rfl
  have literals := greetingProgram_literals (q := Slot.MadeBy start.store) Nat.zero_lt_one
  have programs := programs_greeting (q := Slot.MadeBy start.store) Nat.zero_lt_one 1
  exact ⟨by decide, honest, bounded programs (.program ⟨.empty _, .empty _, literals⟩) patient⟩

end RenderState

end TemplateEngine
