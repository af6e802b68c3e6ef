import TemplateEngine.Render.Escaped

namespace TemplateEngine

/-- A render after one of its steps. Resuming moves the state, which is the template and the sink, on into the handle
of the next step, so that a stale handle cannot run a step twice. -/
structure Handle (τ S : Type) where
  status : Status
  state : Option (τ × S)

/-- A render into a buffer of its own, and the kind that its output is tagged with. -/
structure BufferedHandle (τ : Type) where
  handle : Handle τ OutputBuffer
  kind : Option ContentKind

namespace Handle

variable {τ S : Type}

/-- The handle after a step; none after a step that failed, and its state is lost. -/
def ofStep (result : StepResult τ S) : Except RenderError (Handle τ S) :=
  result.outcome.map (fun status => ⟨status, some (result.template, result.sink)⟩)

def start (step : τ → S → StepResult τ S) (template : τ) (sink : S) : Except RenderError (Handle τ S) :=
  ofStep (step template sink)

/-- Runs the next step, and gives the handle it leads to and this handle as it is afterwards. -/
def resume (step : τ → S → StepResult τ S) (h : Handle τ S) :
    Except RenderError (Handle τ S) × Handle τ S :=
  if h.status = .done then (.error (.ofKind .alreadyDone), h)
  else
    match h.state with
    | none => (.error (.ofKind .alreadyResumed), h)
    | some (template, sink) => (ofStep (step template sink), { h with state := none })

/-- The sink, unless the state has moved on. -/
def sink? (h : Handle τ S) : Option S := h.state.map Prod.snd

def withSink (h : Handle τ S) (sink : S) : Handle τ S :=
  { h with state := h.state.map (fun state => (state.1, sink)) }

def inspect (σ : CellStore) (h : Handle τ S) : String :=
  Text.shownStruct "WriteContinuation"
    [("result", h.status.inspect σ), ("resumable", if h.state.isSome then "true" else "false")] false

end Handle

namespace SanitizedContent

/-- A complete output as content of a kind; without one it is text. -/
def ofRendered (text : String) (kind : Option ContentKind) : SanitizedContent := ⟨text, kind.getD .text⟩

end SanitizedContent

namespace BufferedHandle

variable {τ : Type}

def resume (step : τ → OutputBuffer → StepResult τ OutputBuffer) (h : BufferedHandle τ) :
    Except RenderError (BufferedHandle τ) × BufferedHandle τ :=
  match h.handle.resume step with
  | (next, old) => (next.map (fun handle => { h with handle := handle }), { h with handle := old })

/-- The complete output, once the render is done. -/
def text (σ : CellStore) (h : BufferedHandle τ) : Except RenderError String :=
  if h.handle.status = .done then .ok ((h.handle.sink?.map OutputBuffer.text).getD "")
  else .error (.ofKind (.notDone (h.handle.status.text σ)))

/-- The complete output as content of the kind of the render, once the render is done. -/
def content (σ : CellStore) (h : BufferedHandle τ) : Except RenderError SanitizedContent :=
  (h.text σ).map (fun text => SanitizedContent.ofRendered text h.kind)

def inspect (σ : CellStore) (h : BufferedHandle τ) : String :=
  Text.shownStruct "Continuation"
    [("result", h.handle.status.inspect σ), ("kind", Text.shownOption ContentKind.inspect h.kind)] false

end BufferedHandle

end TemplateEngine
