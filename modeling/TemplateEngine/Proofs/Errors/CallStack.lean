import TemplateEngine.Proofs.Errors.Prints
import TemplateEngine.Proofs.Turn.Course

namespace TemplateEngine

variable {ctx : RenderContext} {σ : CellStore} {depth : Nat}

/-- The place of the instruction that a program is at. -/
def Activation.place (frame : Activation) : TemplateFrame := ⟨frame.name, frame.todo.head?.bind Step.position⟩

namespace Instance

/-- The programs on the call stack, the innermost first, each with the place of the instruction that it is at. A
program that has ended is no longer on it, and neither is what passes output through directives. -/
def stack : Instance → List TemplateFrame
  | .program ⟨_, [], _, _⟩ _ => []
  | .program ⟨name, first :: _, _, _⟩ none => [⟨name, first.position⟩]
  | .program ⟨name, first :: _, _, _⟩ (some callee) =>
    (if first.instruction.calls then stack callee else []) ++ [⟨name, first.position⟩]
  | .escaped ⟨inner, _, _, _⟩ => stack inner
  | .empty => []
  | .chunks _ => []

/-- The instruction that writes to the sink is a message. What passes through directives is written by none of the
instructions behind them. -/
def atMessage : Instance → Bool
  | .program ⟨_, first :: _, _, _⟩ none => first.instruction.isMessage
  | .program ⟨_, first :: _, _, _⟩ (some callee) =>
    if first.instruction.calls then atMessage callee else first.instruction.isMessage
  | _ => false

/-- The programs on the call stack that have found room to run, the innermost first. -/
def running : (room : Nat) → Instance → List Activation
  | 0, _ => []
  | _ + 1, .program ⟨_, [], _, _⟩ _ => []
  | _ + 1, .program frame none => [frame]
  | room + 1, .program ⟨name, first :: rest, params, injected⟩ (some callee) =>
    (if first.instruction.calls then running room callee else []) ++ [⟨name, first :: rest, params, injected⟩]
  | room + 1, .escaped w => running room w.inner
  | _ + 1, .empty => []
  | _ + 1, .chunks _ => []

/-- How a template reports that the sink has refused its output. -/
def refusal (template : Instance) (e : SinkError) : RenderError :=
  ⟨if template.atMessage then .message (.sink e) else .sink e, template.stack⟩

/-- The frames of an error that is raised where a template stands. -/
def backtrace (room : Nat) (template : Instance) : List TemplateFrame := (template.running room).map Activation.place

end Instance

namespace Instance

variable {name : String} {params injected : Record} {first : Step} {rest : List Step} {slot : Option Instance}

theorem stack_idle (idle : first.inFlight slot = none) :
    (program ⟨name, first :: rest, params, injected⟩ slot).stack = [⟨name, first.position⟩] := by
  cases slot with
  | none => rfl
  | some callee => simp_all [stack, Step.inFlight]

theorem atMessage_idle (idle : first.inFlight slot = none) :
    (program ⟨name, first :: rest, params, injected⟩ slot).atMessage = first.instruction.isMessage := by
  cases slot with
  | none => rfl
  | some callee => simp_all [atMessage, Step.inFlight]

theorem running_idle (idle : first.inFlight slot = none) (room : Nat) :
    (program ⟨name, first :: rest, params, injected⟩ slot).running (room + 1) =
      [⟨name, first :: rest, params, injected⟩] := by
  cases slot with
  | none => rfl
  | some callee => simp_all [running, Step.inFlight]

theorem stack_calling (calls : first.instruction.calls = true) (callee : Instance) :
    (program ⟨name, first :: rest, params, injected⟩ (some callee)).stack =
      callee.stack ++ [⟨name, first.position⟩] := by
  simp [stack, calls]

theorem atMessage_calling (calls : first.instruction.calls = true) (callee : Instance) :
    (program ⟨name, first :: rest, params, injected⟩ (some callee)).atMessage = callee.atMessage := by
  simp [atMessage, calls]

theorem running_calling (calls : first.instruction.calls = true) (room : Nat) (callee : Instance) :
    (program ⟨name, first :: rest, params, injected⟩ (some callee)).running (room + 1) =
      callee.running room ++ [⟨name, first :: rest, params, injected⟩] := by
  simp [running, calls]

end Instance

theorem Instance.refusal_cause (template : Instance) (e : SinkError) : (template.refusal e).kind.cause? = some e := by
  by_cases message : template.atMessage <;> simp [Instance.refusal, message, ErrorKind.cause?]

/-- What a turn reports of a refused output has the frames of the template that it leaves behind, and nothing of a
template that is finished is on the call stack. -/
def Turn.Traced : Turn → Prop
  | .await _ _ => True
  | .fail _ _ => True
  | .act output pace next =>
    (∀ given ∈ output, given.refusal = given.retry.refusal) ∧ (pace = .finished → next.stack = [])

namespace Activation

theorem complete_traced {frame : Activation} {rest : List Step} {callee : Option Instance} {output : Option Output}
    (traced : ∀ given ∈ output, given.refusal = given.retry.refusal) : (frame.complete rest callee output).Traced := by
  refine ⟨traced, fun finished => ?_⟩
  cases rest with
  | nil => rfl
  | cons second rest => simp at finished

/-- A caller puts its own frame below those of its callee. -/
theorem relay_traced (frame : Activation) {first : Step} (calls : first.instruction.calls = true) (rest : List Step)
    {turn : Turn} (traced : turn.Traced) : (frame.relay first rest turn).Traced := by
  cases turn with
  | await c callee => trivial
  | fail e callee => trivial
  | act output pace callee =>
    have relayed : ∀ given ∈ output.map (frame.relayOutput first rest), given.refusal = given.retry.refusal := by
      intro given member
      obtain ⟨inner, found, rfl⟩ := Option.map_eq_some_iff.mp member
      have same := traced.1 inner found
      funext e
      simp only [relayOutput, same, Instance.refusal, RenderError.withFrame, Instance.stack_calling calls,
        Instance.atMessage_calling calls]
    cases pace with
    | finished => exact complete_traced relayed
    | asking | onward | resting => exact ⟨relayed, fun finished => by cases finished⟩

theorem turn_traced (callees : ∀ callee : Instance, (callee.turn ctx σ depth).Traced) (frame : Activation)
    (steps : List Step) (callee : Option Instance) :
    (frame.turn ctx σ (Instance.turn ctx σ depth) steps callee).Traced := by
  cases steps with
  | nil => exact ⟨by simp, fun _ => rfl⟩
  | cons first rest =>
    cases running : first.inFlight callee with
    | some inFlight =>
      rw [turn_inFlight ctx σ _ frame rest running]
      exact frame.relay_traced (Step.inFlight_eq_some.mp running).1 rest (callees inFlight)
    | none =>
      simp only [turn, running]
      cases work : first.instruction.effect ctx σ frame.params frame.injected with
      | error obstacle =>
        cases obstacle with
        | awaits c => trivial
        | fails e => trivial
      | ok effect =>
        cases effect with
        | silent => exact complete_traced (by simp)
        | enter callee => exact frame.relay_traced (Instruction.calls_of_enter work) rest (callees callee)
        | write text | writeMessage text =>
          have message := (Instruction.prints_of_effect work rfl).2
          refine complete_traced ?_
          rintro _ ⟨⟩
          funext e
          simp [Activation.output, Instance.refusal, Instance.atMessage_idle running, ← message, Effect.isMessage,
            Instance.stack_idle running, RenderError.ofKind, RenderError.withFrame]

end Activation

theorem Escaped.turn_traced (w : Escaped Instance) {turn : Turn} (traced : turn.Traced) : (w.turn σ turn).Traced := by
  cases turn with
  | await c inner => trivial
  | fail e inner => trivial
  | act output pace next =>
    cases pace with
    | asking | onward | resting => exact ⟨by simp, fun finished => by cases finished⟩
    | finished =>
      have ended : next.stack = [] := traced.2 rfl
      simp only [turn, deliver]
      split
      · trivial
      · refine ⟨?_, fun _ => ended⟩
        rintro _ ⟨⟩
        funext e
        simp [Instance.refusal, Instance.atMessage, Instance.stack, collect, ended, RenderError.ofKind]

namespace Instance

theorem turn_traced (ctx : RenderContext) (σ : CellStore) (depth : Nat) (template : Instance) :
    (template.turn ctx σ depth).Traced := by
  induction depth generalizing template with
  | zero => trivial
  | succ depth ih =>
    cases template with
    | empty => exact ⟨by simp, fun _ => rfl⟩
    | chunks rest =>
      cases rest with
      | nil => exact ⟨by simp, fun _ => rfl⟩
      | cons text rest =>
        refine ⟨?_, fun _ => rfl⟩
        rintro _ ⟨⟩
        rfl
    | program frame callee => exact frame.turn_traced ih frame.todo callee
    | escaped w => exact w.turn_traced (ih w.inner)

end Instance

end TemplateEngine
