import TemplateEngine.Proofs.Reads
import TemplateEngine.Proofs.Templates

namespace TemplateEngine

/-- What happens at the call in a line of a program. -/
inductive CallEvent
  | resolved (line : Nat)
  | created (line : Nat) (callee : Instance)
  /-- A callee, as it is before it takes a step. -/
  | resumed (line : Nat) (callee : Instance)

/-- Whether an instruction comes to choosing a template when it is worked out. A delegate call reads its variant
first. -/
def Instruction.resolves (σ : CellStore) (params injected : Record) : Instruction → Bool
  | .call _ _ => true
  | .delegateCall target => (target.variant.read σ params injected).isOk
  | _ => false

namespace Instruction

variable {ctx : RenderContext} {σ : CellStore} {params injected : Record} {instruction : Instruction}

theorem resolves_of_enter {callee : Instance}
    (entered : instruction.effect ctx σ params injected = .ok (.enter callee)) :
    instruction.resolves σ params injected = true := by
  cases instruction with
  | text | css | xid | print | printCall | message => exact absurd entered (effect_ne_enter rfl callee)
  | call => rfl
  | delegateCall target =>
    obtain ⟨template, started, -⟩ := exceptMap_eq_ok.mp entered
    obtain ⟨variant, -, read, -⟩ := DelegateCall.start_eq_ok started
    rw [resolves, read]
    rfl

/-- Nothing is chosen before a call has all the values that it waits for. -/
theorem resolves_of_awaits {c : CellId} (waits : instruction.effect ctx σ params injected = .error (.awaits c)) :
    instruction.resolves σ params injected = false := by
  cases instruction with
  | text | css | xid | print | printCall | message => rfl
  | call =>
    obtain ⟨before, ref, after, split, -⟩ := effect_eq_awaits.mp waits
    simp [reads] at split
  | delegateCall target =>
    have unread := ValueRef.read_eq_awaits.mpr (halts_singleton.mp (effect_eq_awaits.mp waits))
    rw [resolves, unread]
    rfl

theorem resolves_of_quiet (quiet : instruction.passes = none) : instruction.resolves σ params injected = false := by
  cases instruction with
  | text | css | xid | print | printCall | message => rfl
  | call | delegateCall => cases quiet

end Instruction

variable {S : Type} [Sink S]

/-- Notes events ahead of what comes after them. -/
def StepResult.noting (events : List CallEvent) (later : StepResult Instance S × List CallEvent) :
    StepResult Instance S × List CallEvent := (later.1, events ++ later.2)

namespace Activation

/-- What comes after an instruction that is completed and leaves a callee in flight, or none. -/
def nextNoted (frame : Activation) (rest : List Step) (callee : Option Instance)
    (goOn : S → StepResult Instance S × List CallEvent) (s : S) : StepResult Instance S × List CallEvent :=
  if rest.isEmpty then (⟨.ok .done, .program { frame with todo := [] } callee, s⟩, [])
  else
    match Sink.isFull s with
    | (true, s) => (⟨.ok .limited, .program { frame with todo := rest } callee, s⟩, [])
    | (false, s) => goOn s

/-- A step of the callee of an instruction, and what comes after it. -/
def calleeNoted (advance : Instance → S → StepResult Instance S) (frame : Activation) (line : Nat) (first : Step)
    (rest : List Step) (next : S → StepResult Instance S × List CallEvent) (callee : Instance) (s : S) :
    StepResult Instance S × List CallEvent :=
  StepResult.noting [.resumed line callee]
    (match advance callee s with
    | ⟨.ok .done, _, s⟩ => next s
    | ⟨.ok status, callee, s⟩ => (⟨.ok status, .program { frame with todo := first :: rest } (some callee), s⟩, [])
    | ⟨.error e, callee, s⟩ =>
      (⟨.error (e.withFrame frame.name first.position), .program { frame with todo := first :: rest } (some callee), s⟩,
        []))

/-- A run that begins in a line of a program, with the events at its calls. -/
def runNoted (ctx : RenderContext) (σ : CellStore) (advance : Instance → S → StepResult Instance S)
    (frame : Activation) : (line : Nat) → List Step → Option Instance → S → StepResult Instance S × List CallEvent
  | _, [], callee, s => (⟨.ok .done, .program { frame with todo := [] } callee, s⟩, [])
  | line, first :: rest, callee, s =>
    let next (callee : Option Instance) :=
      frame.nextNoted rest callee (runNoted ctx σ advance frame (line + 1) rest callee)
    let goOn := frame.calleeNoted advance line first rest (next none)
    let failed (e : RenderError) (s : S) : StepResult Instance S :=
      ⟨.error (e.withFrame frame.name first.position), .program { frame with todo := first :: rest } callee, s⟩
    match first.inFlight callee with
    | some callee => goOn callee s
    | none =>
      StepResult.noting (if first.instruction.resolves σ frame.params frame.injected then [.resolved line] else [])
        (match first.instruction.effect ctx σ frame.params frame.injected with
        | .error (.awaits c) => (⟨.ok (.detached c), .program { frame with todo := first :: rest } callee, s⟩, [])
        | .error (.fails e) => (failed e s, [])
        | .ok .silent => next callee s
        | .ok (.enter callee) => StepResult.noting [.created line callee] (goOn callee s)
        | .ok (.write text) =>
          match Sink.append text s with
          | (.error e, s) => (failed (.ofKind (.sink e)) s, [])
          | (.ok (), s) => next callee s
        | .ok (.writeMessage text) =>
          match Sink.append text s with
          | (.error e, s) => (failed (.ofKind (.message (.sink e))) s, [])
          | (.ok (), s) => next callee s)

/-- Forgetting the notes leaves the run. -/
theorem runNoted_fst (ctx : RenderContext) (σ : CellStore) (advance : Instance → S → StepResult Instance S)
    (frame : Activation) (line : Nat) (steps : List Step) (callee : Option Instance) (s : S) :
    (frame.runNoted ctx σ advance line steps callee s).1 = frame.run ctx σ advance steps callee s := by
  induction steps generalizing line callee s with
  | nil => rfl
  | cons first rest ih =>
    have next (callee : Option Instance) (s : S) :
        (frame.nextNoted rest callee (frame.runNoted ctx σ advance (line + 1) rest callee) s).1 =
          if rest.isEmpty then ⟨.ok .done, .program { frame with todo := [] } callee, s⟩
          else
            match Sink.isFull s with
            | (true, s) => ⟨.ok .limited, .program { frame with todo := rest } callee, s⟩
            | (false, s) => frame.run ctx σ advance rest callee s := by
      rw [nextNoted]
      split
      · rfl
      · split <;> rename_i asked
        · rfl
        · exact ih (line + 1) callee _
    have goOn (callee : Instance) (s : S) :
        (frame.calleeNoted advance line first rest
            (frame.nextNoted rest none (frame.runNoted ctx σ advance (line + 1) rest none)) callee s).1 =
          match advance callee s with
          | ⟨.ok .done, _, s⟩ =>
            if rest.isEmpty then ⟨.ok .done, .program { frame with todo := [] } none, s⟩
            else
              match Sink.isFull s with
              | (true, s) => ⟨.ok .limited, .program { frame with todo := rest } none, s⟩
              | (false, s) => frame.run ctx σ advance rest none s
          | ⟨.ok status, callee, s⟩ =>
            ⟨.ok status, .program { frame with todo := first :: rest } (some callee), s⟩
          | ⟨.error e, callee, s⟩ =>
            ⟨.error (e.withFrame frame.name first.position), .program { frame with todo := first :: rest } (some callee),
              s⟩ := by
      simp only [calleeNoted, StepResult.noting]
      obtain ⟨outcome, template, after⟩ := advance callee s
      cases outcome with
      | error e => rfl
      | ok status =>
        cases status with
        | done => exact next none after
        | limited | detached => rfl
    simp only [runNoted, run]
    cases running : first.inFlight callee with
    | some inFlight => exact goOn inFlight s
    | none =>
      simp only [StepResult.noting]
      cases first.instruction.effect ctx σ frame.params frame.injected with
      | error obstacle => cases obstacle <;> rfl
      | ok effect =>
        cases effect with
        | silent => exact next callee s
        | enter started => exact goOn started s
        | write text | writeMessage text =>
          dsimp only
          obtain ⟨answer, after⟩ := Sink.append text s
          cases answer with
          | error e => rfl
          | ok => exact next callee after

end Activation

/-- The events at the calls of a program of so many lines, in one step of it. -/
def Instance.callEvents (ctx : RenderContext) (σ : CellStore) (lines : Nat) :
    (depth : Nat) → Instance → S → List CallEvent
  | depth + 1, .program frame callee, s =>
    (frame.runNoted ctx σ (step ctx σ depth) (lines - frame.todo.length) frame.todo callee s).2
  | _, _, _ => []

end TemplateEngine
