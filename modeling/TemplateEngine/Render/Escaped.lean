import TemplateEngine.Render.Plugin
import TemplateEngine.Sink.Buffer

namespace TemplateEngine

/-- What a step leaves behind: its outcome, and the template and the sink as they are afterwards. -/
structure StepResult (τ S : Type) where
  outcome : Except RenderError Status
  template : τ
  sink : S

/-- A template whose output passes through directives. These work on complete values, so it writes into a buffer of its
own, which lasts over all its steps, and its sink sees nothing until it is done. -/
structure Escaped (τ : Type) where
  inner : τ
  directives : List PrintDirective
  /-- The kind that the output is handed on as; without one it is a plain string. -/
  kind : Option ContentKind
  buffer : OutputBuffer

namespace PrintDirective

/-- Applies directives one after the other, without arguments. -/
def applyAll (σ : CellStore) (directives : List PrintDirective) (value : Value) : Except RenderError Value :=
  directives.foldlM (fun value directive => directive.apply σ value []) value

end PrintDirective

namespace Escaped

variable {τ S : Type}

def finish (σ : CellStore) (w : Escaped τ) (output : String) : Except RenderError String :=
  (PrintDirective.applyAll σ w.directives
    (w.kind.elim (.string output) (fun kind => .sanitized ⟨output, kind⟩))).map σ.text

/-- One step, given how the template inside takes its steps. Its pauses and errors are passed on; once it is
done the buffer is taken and its text written, and the buffer is empty even if that fails. -/
def step [Sink S] (σ : CellStore) (inner : τ → OutputBuffer → StepResult τ OutputBuffer) (w : Escaped τ)
    (s : S) : StepResult (Escaped τ) S :=
  match inner w.inner w.buffer with
  | ⟨.ok .done, template, buffer⟩ =>
    let w := { w with inner := template, buffer := buffer.take.2 }
    match w.finish σ buffer.take.1 with
    | .error e => ⟨.error e, w, s⟩
    | .ok text =>
      match Sink.append text s with
      | (.error e, s) => ⟨.error (.ofKind (.sink e)), w, s⟩
      | (.ok (), s) => ⟨.ok .done, w, s⟩
  | ⟨outcome, template, buffer⟩ => ⟨outcome, { w with inner := template, buffer := buffer }, s⟩

end Escaped

end TemplateEngine
