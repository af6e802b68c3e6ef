import TemplateEngine.Proofs.Recorder

namespace TemplateEngine

/-- How templates of some kind take their steps. -/
structure Behaviour (τ : Type) where
  step : {S : Type} → [Sink S] → CellStore → τ → S → StepResult τ S
  project : ∀ {S T : Type} [Sink S] [Sink T] {f : S → T}, Sink.Projects f → ∀ σ template s,
    step σ template (f s) = ⟨(step σ template s).outcome, (step σ template s).template, f (step σ template s).sink⟩

/-- What is seen of a step. -/
structure Report where
  store : CellStore
  outcome : Except RenderError Status
  events : List SinkEvent

/-- What comes before a step: some cells are known, and the caller does something to the sink. -/
structure Visit (S : Type) where
  store : CellStore
  relieve : S → S

/-- All text that a sink has taken in some steps. -/
def Report.written (reports : List Report) : String :=
  String.join (reports.map fun report => SinkEvent.written report.events)

theorem Report.written_cons (report : Report) (reports : List Report) :
    written (report :: reports) = SinkEvent.written report.events ++ written reports := by
  rw [written, List.map_cons, String.join_cons]
  rfl

namespace Behaviour

variable {τ S : Type} [Sink S] (b : Behaviour τ)

def report (σ : CellStore) (template : τ) (s : S) : Report :=
  let result := b.step σ template (Recorder.watch s)
  ⟨σ, result.outcome, result.sink.log⟩

/-- The steps of a render, for as long as they can be resumed. -/
def run : τ → S → List (Visit S) → List Report
  | _, _, [] => []
  | template, s, visit :: visits =>
    let s := visit.relieve s
    let result := b.step visit.store template s
    b.report visit.store template s :: if result.resumable then run result.template result.sink visits else []

/-- Whatever appending to a sink and asking it keep is kept by a step. -/
theorem step_keeps {p : S → Prop} (append : ∀ text s, p s → p (Sink.append text s).2)
    (isFull : ∀ s, p s → p (Sink.isFull s).2) (σ : CellStore) (template : τ) {s : S} (holds : p s) :
    p (b.step σ template s).sink := by
  -- The sinks with the property are sinks themselves, and a step takes place among them.
  let among : Sink { s : S // p s } := {
    append := fun text s => ((Sink.append text s.1).1, ⟨_, append text s.1 s.2⟩)
    isFull := fun s => ((Sink.isFull s.1).1, ⟨_, isFull s.1 s.2⟩) }
  have projects : Sink.Projects (Subtype.val : { s : S // p s } → S) := ⟨fun _ _ => rfl, fun _ => rfl⟩
  have step := b.project projects σ template ⟨s, holds⟩
  rw [step]
  exact (b.step σ template (⟨s, holds⟩ : { s : S // p s })).sink.2

theorem step_eq_watched (σ : CellStore) (template : τ) (s : S) :
    b.step σ template s =
      ⟨(b.report σ template s).outcome, (b.step σ template (Recorder.watch s)).template,
        (b.step σ template (Recorder.watch s)).sink.sink⟩ :=
  b.project Recorder.projects σ template (Recorder.watch s)

/-- A buffer has the text of the step at its end. -/
theorem step_buffer (σ : CellStore) (template : τ) (buffer : OutputBuffer) :
    (b.step σ template buffer).sink.text =
      buffer.text ++ SinkEvent.written (b.report σ template buffer).events := by
  rw [step_eq_watched]
  refine b.step_keeps (p := fun r : Recorder OutputBuffer => r.sink.text = buffer.text ++ SinkEvent.written r.log)
    (fun text r holds => ?_) (fun r holds => ?_) σ template ?_
  · change r.sink.text ++ text = buffer.text ++ SinkEvent.written (r.log ++ [.append text (.ok ())])
    rw [SinkEvent.written_append, ← String.append_assoc, ← holds]
    simp [SinkEvent.written, SinkEvent.taken]
  · change r.sink.text = buffer.text ++ SinkEvent.written (r.log ++ [.asked false])
    rw [SinkEvent.written_append, SinkEvent.written_asked, ← String.append_assoc, ← holds]
    exact String.append_empty.symm
  · exact String.append_empty.symm

end Behaviour

/-- Programs and what they call, with room for `depth` nested calls. -/
def Instance.behaviour (ctx : RenderContext) (depth : Nat) : Behaviour Instance where
  step σ template s := template.step ctx σ depth s
  project projects σ template s := step_project projects ctx σ depth template s

end TemplateEngine
