import TemplateEngine.Render.Effect

namespace TemplateEngine

namespace Activation

variable {S : Type}

/-- Runs instructions until the program is done or has to stop: before an instruction that waits for a value, after one
when the sink is full and more are left, and whenever the callee stops. `advance` steps a callee. An error stays at the
instruction that raised it. -/
def run [Sink S] (ctx : RenderContext) (σ : CellStore) (advance : Instance → S → StepResult Instance S)
    (frame : Activation) : List Step → Option Instance → S → StepResult Instance S
  | [], callee, s => ⟨.ok .done, .program { frame with todo := [] } callee, s⟩
  | first :: rest, callee, s =>
    let here (callee : Option Instance) : Instance := .program { frame with todo := first :: rest } callee
    let failed (e : RenderError) (s : S) : StepResult Instance S :=
      ⟨.error (e.withFrame frame.name first.position), here callee, s⟩
    let next (callee : Option Instance) (s : S) : StepResult Instance S :=
      if rest.isEmpty then ⟨.ok .done, .program { frame with todo := [] } callee, s⟩
      else
        match Sink.isFull s with
        | (true, s) => ⟨.ok .limited, .program { frame with todo := rest } callee, s⟩
        | (false, s) => run ctx σ advance frame rest callee s
    let goOn (callee : Instance) : StepResult Instance S :=
      match advance callee s with
      | ⟨.ok .done, _, s⟩ => next none s
      | ⟨.ok status, callee, s⟩ => ⟨.ok status, here (some callee), s⟩
      | ⟨.error e, callee, s⟩ => ⟨.error (e.withFrame frame.name first.position), here (some callee), s⟩
    match first.inFlight callee with
    | some callee => goOn callee
    | none =>
      match first.instruction.effect ctx σ frame.params frame.injected with
      | .error (.awaits c) => ⟨.ok (.detached c), here callee, s⟩
      | .error (.fails e) => failed e s
      | .ok .silent => next callee s
      | .ok (.enter callee) => goOn callee
      | .ok (.write text) =>
        match Sink.append text s with
        | (.error e, s) => failed (.ofKind (.sink e)) s
        | (.ok (), s) => next callee s
      | .ok (.writeMessage text) =>
        match Sink.append text s with
        | (.error e, s) => failed (.ofKind (.message (.sink e))) s
        | (.ok (), s) => next callee s

end Activation

namespace Instance

variable {S : Type}

/-- Writes the next piece of text; the template is done when it was the last. A piece that the sink refuses
stays the next one. -/
def stepChunks [Sink S] (rest : List String) (s : S) : StepResult Instance S :=
  match rest with
  | [] => ⟨.ok .done, .chunks [], s⟩
  | text :: rest =>
    match Sink.append text s with
    | (.error e, s) => ⟨.error (.ofKind (.sink e)), .chunks (text :: rest), s⟩
    | (.ok (), s) => ⟨.ok (if rest.isEmpty then .done else .limited), .chunks rest, s⟩

/-- One step of a template with room for `depth` nested calls. A call that does not find room is an error
like any other: it stays at the instruction that made the call. -/
def step (ctx : RenderContext) (σ : CellStore) :
    (depth : Nat) → {S : Type} → [Sink S] → Instance → S → StepResult Instance S
  | 0, _, _, template, s => ⟨.error (.ofKind .callsTooDeep), template, s⟩
  | _ + 1, _, _, .empty, s => ⟨.ok .done, .empty, s⟩
  | _ + 1, _, _, .chunks rest, s => stepChunks rest s
  | depth + 1, _, _, .program frame callee, s => frame.run ctx σ (step ctx σ depth) frame.todo callee s
  | depth + 1, _, _, .escaped wrapper, s =>
    let result := wrapper.step σ (step ctx σ depth) s
    ⟨result.outcome, .escaped result.template, result.sink⟩

/-- One step of a template. Calls nest as deeply as the context allows. -/
def advance [Sink S] (ctx : RenderContext) (σ : CellStore) (template : Instance) (s : S) :
    StepResult Instance S := template.step ctx σ ctx.callDepth s

end Instance

end TemplateEngine
