import TemplateEngine.Proofs.Turn.Step

namespace TemplateEngine

namespace Instance

/-- A step that is at `template` may go on at `next`. -/
def Follows (ctx : RenderContext) (σ : CellStore) (depth : Nat) (next template : Instance) : Prop :=
  ∃ output pace, template.turn ctx σ depth = .act output pace next ∧ (pace = .asking ∨ pace = .onward)

end Instance

namespace Activation

/-- While a callee is in flight a step goes on at the callee, or past the call when the callee is done. -/
theorem relay_goes_on {frame : Activation} {first : Step} {rest : List Step} {turn : Turn} {output : Option Output}
    {pace : Pace} {next : Instance} (relayed : frame.relay first rest turn = .act output pace next)
    (goesOn : pace = .asking ∨ pace = .onward) :
    next = .program { frame with todo := rest } none ∨
      ∃ output inner, turn = .act output pace inner ∧
        next = .program { frame with todo := first :: rest } (some inner) := by
  cases turn with
  | await c callee => simp [relay] at relayed
  | fail e callee => simp [relay] at relayed
  | act given given' inner =>
    cases given' with
    | finished =>
      simp only [relay, complete, Turn.act.injEq] at relayed
      exact .inl relayed.2.2.symm
    | resting =>
      simp only [relay, Turn.act.injEq] at relayed
      rcases goesOn with rfl | rfl <;> simp at relayed
    | asking | onward =>
      simp only [relay, Turn.act.injEq] at relayed
      obtain ⟨-, rfl, rfl⟩ := relayed
      exact .inr ⟨given, inner, rfl, rfl⟩

/-- Like a run, a turn reads the instructions from its argument. -/
theorem turn_withTodo (ctx : RenderContext) (σ : CellStore) (calleeTurn : Instance → Turn) (frame : Activation)
    (todo steps : List Step) (callee : Option Instance) :
    turn ctx σ calleeTurn { frame with todo := todo } steps callee =
      turn ctx σ calleeTurn frame steps callee := by
  cases steps <;> rfl

/-- A call whose callee is in flight does what the callee does. -/
theorem turn_inFlight (ctx : RenderContext) (σ : CellStore) (calleeTurn : Instance → Turn) (frame : Activation)
    {first : Step} (rest : List Step) {slot : Option Instance} {callee : Instance}
    (running : first.inFlight slot = some callee) :
    frame.turn ctx σ calleeTurn (first :: rest) slot = frame.relay first rest (calleeTurn callee) := by
  simp only [turn, running]

/-- An instruction that has no callee in flight waits, fails, calls, or is completed. -/
theorem turn_idle (ctx : RenderContext) (σ : CellStore) (calleeTurn : Instance → Turn) (frame : Activation)
    {first : Step} (rest : List Step) {slot : Option Instance} (idle : first.inFlight slot = none) :
    (∃ c, first.instruction.effect ctx σ frame.params frame.injected = .error (.awaits c) ∧
      frame.turn ctx σ calleeTurn (first :: rest) slot =
        .await c (.program { frame with todo := first :: rest } slot)) ∨
    (∃ e, first.instruction.effect ctx σ frame.params frame.injected = .error (.fails e) ∧
      frame.turn ctx σ calleeTurn (first :: rest) slot =
        .fail (e.withFrame frame.name first.position) (.program { frame with todo := first :: rest } slot)) ∨
    (∃ callee, first.instruction.effect ctx σ frame.params frame.injected = .ok (.enter callee) ∧
      frame.turn ctx σ calleeTurn (first :: rest) slot = frame.relay first rest (calleeTurn callee)) ∨
    (∃ output, (∀ callee, first.instruction.effect ctx σ frame.params frame.injected ≠ .ok (.enter callee)) ∧
      frame.turn ctx σ calleeTurn (first :: rest) slot = frame.complete rest slot output) := by
  simp only [turn, idle]
  rcases first.instruction.effect ctx σ frame.params frame.injected with obstacle | effect
  · cases obstacle with
    | awaits c => exact .inl ⟨c, rfl, rfl⟩
    | fails e => exact .inr (.inl ⟨e, rfl, rfl⟩)
  · cases effect with
    | enter callee => exact .inr (.inr (.inl ⟨callee, rfl, rfl⟩))
    | write text => exact .inr (.inr (.inr ⟨_, by simp, rfl⟩))
    | writeMessage text => exact .inr (.inr (.inr ⟨_, by simp, rfl⟩))
    | silent => exact .inr (.inr (.inr ⟨_, by simp, rfl⟩))

/-- A step of a program ends if the steps of its callees do. -/
theorem acc_follows (ctx : RenderContext) (σ : CellStore) (depth : Nat)
    (callees : ∀ callee, Acc (Instance.Follows ctx σ depth) callee) (frame : Activation) (steps : List Step)
    (slot : Option Instance) :
    Acc (Instance.Follows ctx σ (depth + 1)) (.program { frame with todo := steps } slot) := by
  induction steps generalizing slot with
  | nil =>
    refine .intro _ fun next follows => ?_
    obtain ⟨output, pace, turn, goesOn⟩ := follows
    simp only [Instance.turn, Activation.turn, Turn.act.injEq] at turn
    obtain ⟨-, rfl, -⟩ := turn
    simp at goesOn
  | cons first rest past =>
    have calling (calls : first.instruction.calls = true) (callee : Instance) :
        Acc (Instance.Follows ctx σ (depth + 1)) (.program { frame with todo := first :: rest } (some callee)) := by
      induction callees callee with
      | intro callee _ ih =>
        refine .intro _ fun next follows => ?_
        obtain ⟨output, pace, turn, goesOn⟩ := follows
        rw [Instance.turn, turn_inFlight _ _ _ _ _ (Step.inFlight_of_calls calls _)] at turn
        rcases relay_goes_on turn goesOn with rfl | ⟨output, inner, innerTurn, rfl⟩
        · exact past none
        · exact ih inner ⟨output, pace, innerTurn, goesOn⟩
    cases running : first.inFlight slot with
    | some callee =>
      obtain ⟨calls, rfl⟩ := Step.inFlight_eq_some.mp running
      exact calling calls callee
    | none =>
      refine .intro _ fun next follows => ?_
      obtain ⟨output, pace, turn, goesOn⟩ := follows
      simp only [Instance.turn, turn_withTodo] at turn
      rcases frame.turn_idle ctx σ (Instance.turn ctx σ depth) rest running with
        ⟨c, -, same⟩ | ⟨e, -, same⟩ | ⟨callee, entered, same⟩ | ⟨output, -, same⟩
      · simp [same] at turn
      · simp [same] at turn
      · rw [same] at turn
        have calls := Instruction.calls_of_enter entered
        refine (calling calls callee).inv ⟨output, pace, ?_, goesOn⟩
        rwa [Instance.turn, turn_inFlight _ _ _ _ _ (Step.inFlight_of_calls calls _)]
      · simp only [same, complete, Turn.act.injEq] at turn
        obtain ⟨-, -, rfl⟩ := turn
        exact past slot

end Activation

namespace Escaped

/-- While the template inside is not done its wrapper has no output, and goes on with it. -/
theorem turn_goes_on {σ : CellStore} {w : Escaped Instance} {turn : Turn} {output : Option Output}
    {pace : Pace} {next : Instance} (wrapped : w.turn σ turn = .act output pace next)
    (goesOn : pace = .asking ∨ pace = .onward) :
    ∃ output pace inner, turn = .act output pace inner ∧ (pace = .asking ∨ pace = .onward) ∧
      next = .escaped (w.collect output inner) := by
  cases turn with
  | await c inner => simp [Escaped.turn] at wrapped
  | fail e inner => simp [Escaped.turn] at wrapped
  | act given given' inner =>
    cases given' with
    | finished =>
      simp only [Escaped.turn, deliver] at wrapped
      split at wrapped
      · simp at wrapped
      · simp only [Turn.act.injEq] at wrapped
        obtain ⟨-, rfl, -⟩ := wrapped
        simp at goesOn
    | resting =>
      simp only [Escaped.turn, Turn.act.injEq] at wrapped
      obtain ⟨-, rfl, -⟩ := wrapped
      simp at goesOn
    | asking | onward =>
      simp only [Escaped.turn, Turn.act.injEq] at wrapped
      exact ⟨given, _, inner, rfl, by simp, wrapped.2.2.symm⟩

end Escaped

namespace Instance

/-- The turns of one step come to an end, however the sink answers. -/
theorem follows_wf (ctx : RenderContext) (σ : CellStore) (depth : Nat) :
    WellFounded (Follows ctx σ depth) := by
  refine ⟨fun template => ?_⟩
  induction depth generalizing template with
  | zero =>
    refine .intro _ fun next follows => ?_
    obtain ⟨_, _, turn, _⟩ := follows
    simp [Instance.turn] at turn
  | succ depth ih =>
    cases template with
    | empty =>
      refine .intro _ fun next follows => ?_
      obtain ⟨output, pace, turn, goesOn⟩ := follows
      simp only [Instance.turn, Turn.act.injEq] at turn
      obtain ⟨-, rfl, -⟩ := turn
      simp at goesOn
    | chunks rest =>
      refine .intro _ fun next follows => ?_
      obtain ⟨output, pace, turn, goesOn⟩ := follows
      cases rest with
      | nil =>
        simp only [Instance.turn, turnChunks, Turn.act.injEq] at turn
        obtain ⟨-, rfl, -⟩ := turn
        simp at goesOn
      | cons text rest =>
        simp only [Instance.turn, turnChunks, Turn.act.injEq] at turn
        obtain ⟨-, rfl, -⟩ := turn
        split at goesOn <;> simp at goesOn
    | program frame callee => exact frame.acc_follows ctx σ depth ih frame.todo callee
    | escaped w =>
      obtain ⟨inner, directives, kind, buffer⟩ := w
      induction ih inner generalizing buffer with
      | intro inner _ ih =>
        refine .intro _ fun next follows => ?_
        obtain ⟨output, pace, turn, goesOn⟩ := follows
        obtain ⟨output, pace, inner, innerTurn, goesOn, rfl⟩ := Escaped.turn_goes_on turn goesOn
        exact ih inner ⟨output, pace, innerTurn, goesOn⟩ _

end Instance

/-- The sink takes an output, if there is one. -/
def Sink.Takes {S : Type} [Sink S] (output : Option Output) (s after : S) : Prop :=
  match output with
  | none => after = s
  | some output => Sink.append output.text s = (.ok (), after)

namespace Instance

/-- The course of a step from a template and a sink to its result, turn by turn. -/
inductive Course {S : Type} [Sink S] (ctx : RenderContext) (σ : CellStore) (depth : Nat) :
    Instance → S → StepResult Instance S → Prop
  | await {template stopped c s} (turn : template.turn ctx σ depth = .await c stopped) :
      Course ctx σ depth template s ⟨.ok (.detached c), stopped, s⟩
  | fail {template stopped e s} (turn : template.turn ctx σ depth = .fail e stopped) :
      Course ctx σ depth template s ⟨.error e, stopped, s⟩
  | refused {template output pace next s after e}
      (turn : template.turn ctx σ depth = .act (some output) pace next)
      (append : Sink.append output.text s = (.error e, after)) :
      Course ctx σ depth template s ⟨.error (output.refusal e), output.retry, after⟩
  | finished {template output next s after} (turn : template.turn ctx σ depth = .act output .finished next)
      (takes : Sink.Takes output s after) : Course ctx σ depth template s ⟨.ok .done, next, after⟩
  | rested {template output next s after} (turn : template.turn ctx σ depth = .act output .resting next)
      (takes : Sink.Takes output s after) : Course ctx σ depth template s ⟨.ok .limited, next, after⟩
  | full {template output next s after asked}
      (turn : template.turn ctx σ depth = .act output .asking next) (takes : Sink.Takes output s after)
      (answer : Sink.isFull after = (true, asked)) :
      Course ctx σ depth template s ⟨.ok .limited, next, asked⟩
  | further {template output next s after asked result}
      (turn : template.turn ctx σ depth = .act output .asking next) (takes : Sink.Takes output s after)
      (answer : Sink.isFull after = (false, asked)) (later : Course ctx σ depth next asked result) :
      Course ctx σ depth template s result
  | onward {template output next s after result}
      (turn : template.turn ctx σ depth = .act output .onward next) (takes : Sink.Takes output s after)
      (later : Course ctx σ depth next after result) : Course ctx σ depth template s result

theorem course_step {S : Type} [Sink S] (ctx : RenderContext) (σ : CellStore) (depth : Nat)
    (template : Instance) (s : S) : template.Course ctx σ depth s (template.step ctx σ depth s) := by
  induction template using (follows_wf ctx σ depth).induction generalizing s with
  | _ template ih =>
    have settle {output : Option Output} {pace : Pace} {next : Instance} {after : S}
        (turn : template.turn ctx σ depth = .act output pace next) (takes : Sink.Takes output s after) :
        template.Course ctx σ depth s (pace.follow (step ctx σ depth) next after) := by
      cases pace with
      | finished => exact .finished turn takes
      | resting => exact .rested turn takes
      | onward => exact .onward turn takes (ih next ⟨output, .onward, turn, .inr rfl⟩ after)
      | asking =>
        simp only [Pace.follow]
        rcases answer : Sink.isFull after with ⟨_ | _, asked⟩
        · exact .further turn takes answer (ih next ⟨output, .asking, turn, .inl rfl⟩ asked)
        · exact .full turn takes answer
    rw [step_eq_carryOut]
    cases turn : template.turn ctx σ depth with
    | await c stopped => exact .await turn
    | fail e stopped => exact .fail turn
    | act output pace next =>
      cases output with
      | none => exact settle turn rfl
      | some output =>
        simp only [Turn.carryOut]
        rcases append : Sink.append output.text s with ⟨e | _, after⟩
        · exact .refused turn append
        · exact settle turn append

end Instance

end TemplateEngine
