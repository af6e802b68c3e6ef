import TemplateEngine.Engine.Basic
import TemplateEngine.Sink.Outlet

namespace TemplateEngine

/-- A render into a sink, or one into a text or into content. -/
inductive ActiveRender
  | sink (r : SinkRender Outlet)
  | text (r : BufferedRender)
  | content (r : BufferedRender)

/-- What running a render on has shown: the status of every handle with what its sink gave up, and the error
of the step that failed, if one did. -/
structure RunResult where
  trace : List (Status × Option Relieved)
  failure : Option RenderError

namespace ActiveRender

def status : ActiveRender → Status
  | .sink r => r.handle.status
  | .text r => r.handle.handle.status
  | .content r => r.handle.handle.status

/-- The sink of the caller, unless the state has moved on. -/
def sink? : ActiveRender → Option Outlet
  | .sink r => r.handle.sink?
  | _ => none

def resume (σ : CellStore) : ActiveRender → Except RenderError ActiveRender × ActiveRender
  | .sink r =>
    let (next, old) := r.resume σ
    (next.map .sink, .sink old)
  | .text r =>
    let (next, old) := r.resume σ
    (next.map .text, .text old)
  | .content r =>
    let (next, old) := r.resume σ
    (next.map .content, .content old)

/-- Relieves the sink of the caller, if the render still has it. -/
def relieve : ActiveRender → Option (Except SinkError Relieved) × ActiveRender
  | .sink r =>
    match r.handle.sink? with
    | none => (none, .sink r)
    | some outlet =>
      let (outcome, outlet) := outlet.relieve
      (some outcome, .sink { r with handle := r.handle.withSink outlet })
  | r => (none, r)

/-- Relieves the sink and runs the next step for as long as the sink holds up the render, for `rounds` handles
at most. If the sink cannot be relieved, that is the answer. The render is given as it is afterwards. -/
def run (σ : CellStore) (r : ActiveRender) : (rounds : Nat) → Except SinkError RunResult × ActiveRender
  | 0 => (.ok ⟨[], none⟩, r)
  | rounds + 1 =>
    match r.relieve with
    | (some (.error e), r) => (.error e, r)
    | (relieved, r) =>
      let entry := (r.status, relieved.bind Except.toOption)
      if r.status = .limited then
        match r.resume σ with
        | (.error e, r) => (.ok ⟨[entry], some e⟩, r)
        | (.ok next, _) =>
          let (result, last) := run σ next rounds
          (result.map (fun result => { result with trace := entry :: result.trace }), last)
      else (.ok ⟨[entry], none⟩, r)

def inspect (σ : CellStore) : ActiveRender → String
  | .sink r => r.handle.inspect σ
  | .text r => r.handle.inspect σ
  | .content r => r.handle.inspect σ

end ActiveRender

end TemplateEngine
