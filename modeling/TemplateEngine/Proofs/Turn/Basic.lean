import TemplateEngine.Render.Step

namespace TemplateEngine

/-- How a step goes on after a turn. -/
inductive Pace
  /-- The template has nothing left to do. -/
  | finished
  /-- More is left, and the sink is asked whether it wants a pause. -/
  | asking
  /-- More is left behind a private buffer, and the sink of the caller is not asked. -/
  | onward
  /-- The template pauses of its own accord. -/
  | resting
deriving DecidableEq

/-- A text for the sink, and what is left of the step if the sink refuses it. -/
structure Output where
  text : String
  refusal : SinkError → RenderError
  retry : Instance

/-- What a template does next. -/
inductive Turn
  /-- The current instruction reads a cell that is pending. -/
  | await (cell : CellId) (template : Instance)
  | fail (e : RenderError) (template : Instance)
  /-- The current instruction is completed. -/
  | act (output : Option Output) (pace : Pace) (next : Instance)

namespace Pace

/-- Goes on with a step after a completed instruction. -/
def follow {S : Type} [Sink S] (goOn : Instance → S → StepResult Instance S) (next : Instance) (s : S) :
    Pace → StepResult Instance S
  | .finished => ⟨.ok .done, next, s⟩
  | .resting => ⟨.ok .limited, next, s⟩
  | .onward => goOn next s
  | .asking =>
    match Sink.isFull s with
    | (true, s) => ⟨.ok .limited, next, s⟩
    | (false, s) => goOn next s

end Pace

namespace Turn

/-- Carries out a turn on a sink, and whatever follows it in the same step. -/
def carryOut {S : Type} [Sink S] (goOn : Instance → S → StepResult Instance S) (s : S) :
    Turn → StepResult Instance S
  | .await c template => ⟨.ok (.detached c), template, s⟩
  | .fail e template => ⟨.error e, template, s⟩
  | .act none pace next => pace.follow goOn next s
  | .act (some output) pace next =>
    match Sink.append output.text s with
    | (.error e, s) => ⟨.error (output.refusal e), output.retry, s⟩
    | (.ok (), s) => pace.follow goOn next s

end Turn

namespace Activation

def complete (frame : Activation) (rest : List Step) (callee : Option Instance) (output : Option Output) : Turn :=
  .act output (if rest.isEmpty then .finished else .asking) (.program { frame with todo := rest } callee)

def output (frame : Activation) (first : Step) (rest : List Step) (callee : Option Instance)
    (refusal : SinkError → ErrorKind) (text : String) : Output :=
  ⟨text, fun e => (RenderError.ofKind (refusal e)).withFrame frame.name first.position,
    .program { frame with todo := first :: rest } callee⟩

def relayOutput (frame : Activation) (first : Step) (rest : List Step) (output : Output) : Output :=
  ⟨output.text, fun e => (output.refusal e).withFrame frame.name first.position,
    .program { frame with todo := first :: rest } (some output.retry)⟩

/-- The turn of a callee in flight, as a turn of its caller: the call is completed when the callee is. -/
def relay (frame : Activation) (first : Step) (rest : List Step) : Turn → Turn
  | .await c callee => .await c (.program { frame with todo := first :: rest } (some callee))
  | .fail e callee =>
    .fail (e.withFrame frame.name first.position) (.program { frame with todo := first :: rest } (some callee))
  | .act output .finished _ => frame.complete rest none (output.map (frame.relayOutput first rest))
  | .act output pace callee =>
    .act (output.map (frame.relayOutput first rest)) pace
      (.program { frame with todo := first :: rest } (some callee))

/-- What a program does next, given what its callee does. -/
def turn (ctx : RenderContext) (σ : CellStore) (calleeTurn : Instance → Turn) (frame : Activation) :
    List Step → Option Instance → Turn
  | [], callee => .act none .finished (.program { frame with todo := [] } callee)
  | first :: rest, callee =>
    match first.inFlight callee with
    | some callee => frame.relay first rest (calleeTurn callee)
    | none =>
      match first.instruction.effect ctx σ frame.params frame.injected with
      | .error (.awaits c) => .await c (.program { frame with todo := first :: rest } callee)
      | .error (.fails e) =>
        .fail (e.withFrame frame.name first.position) (.program { frame with todo := first :: rest } callee)
      | .ok .silent => frame.complete rest callee none
      | .ok (.enter callee) => frame.relay first rest (calleeTurn callee)
      | .ok (.write text) => frame.complete rest callee (some (frame.output first rest callee .sink text))
      | .ok (.writeMessage text) =>
        frame.complete rest callee (some (frame.output first rest callee (fun e => .message (.sink e)) text))

end Activation

namespace Escaped

def deliver (σ : CellStore) (w : Escaped Instance) : Turn :=
  let emptied := { w with buffer := w.buffer.take.2 }
  match emptied.finish σ w.buffer.take.1 with
  | .error e => .fail e (.escaped emptied)
  | .ok text => .act (some ⟨text, fun e => .ofKind (.sink e), .escaped emptied⟩) .finished (.escaped emptied)

def collect (w : Escaped Instance) (output : Option Output) (next : Instance) : Escaped Instance :=
  { w with
    inner := next
    buffer := output.elim w.buffer (fun output => ⟨w.buffer.text ++ output.text⟩) }

/-- The turn of the template inside, as a turn of its wrapper. -/
def turn (σ : CellStore) (w : Escaped Instance) : Turn → Turn
  | .await c inner => .await c (.escaped { w with inner := inner })
  | .fail e inner => .fail e (.escaped { w with inner := inner })
  | .act output .finished next => (w.collect output next).deliver σ
  | .act output .resting next => .act none .resting (.escaped (w.collect output next))
  | .act output _ next => .act none .onward (.escaped (w.collect output next))

end Escaped

namespace Instance

def turnChunks : List String → Turn
  | [] => .act none .finished (.chunks [])
  | text :: rest =>
    .act (some ⟨text, fun e => .ofKind (.sink e), .chunks (text :: rest)⟩)
      (if rest.isEmpty then .finished else .resting) (.chunks rest)

/-- What a template with room for `depth` nested calls does next. -/
def turn (ctx : RenderContext) (σ : CellStore) : (depth : Nat) → Instance → Turn
  | 0, template => .fail (.ofKind .callsTooDeep) template
  | _ + 1, .empty => .act none .finished .empty
  | _ + 1, .chunks rest => turnChunks rest
  | depth + 1, .program frame callee => frame.turn ctx σ (turn ctx σ depth) frame.todo callee
  | depth + 1, .escaped wrapper => wrapper.turn σ (turn ctx σ depth wrapper.inner)

end Instance

end TemplateEngine
