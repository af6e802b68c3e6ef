import TemplateEngine.Proofs.Escaped.Behaviour

namespace TemplateEngine

variable {τ S : Type} [Sink S]

namespace Escaped

/-- What directives make of the output of a template: content of its kind, if it has one, else a plain string. -/
def output (σ : CellStore) (directives : List PrintDirective) (kind : Option ContentKind) (text : String) :
    Except RenderError Value :=
  PrintDirective.applyAll σ directives (kind.elim (.string text) fun kind => .sanitized ⟨text, kind⟩)

variable {σ : CellStore} {inner : τ → OutputBuffer → StepResult τ OutputBuffer} {w : Escaped τ}

theorem step_unfinished (unfinished : (inner w.inner w.buffer).outcome ≠ .ok .done) (s : S) :
    w.step σ inner s =
      ⟨(inner w.inner w.buffer).outcome,
        { w with inner := (inner w.inner w.buffer).template, buffer := (inner w.inner w.buffer).sink }, s⟩ := by
  unfold step
  generalize inner w.inner w.buffer = result at unfinished
  obtain ⟨e | status, template, buffer⟩ := result
  · rfl
  · cases status with
    | limited | detached => rfl
    | done => exact absurd rfl unfinished

theorem step_done (done : (inner w.inner w.buffer).outcome = .ok .done) (s : S) :
    w.step σ inner s =
      let emptied := { w with inner := (inner w.inner w.buffer).template, buffer := .empty }
      match output σ w.directives w.kind (inner w.inner w.buffer).sink.text with
      | .error e => ⟨.error e, emptied, s⟩
      | .ok value =>
        match Sink.append (σ.text value) s with
        | (.error e, s) => ⟨.error (.ofKind (.sink e)), emptied, s⟩
        | (.ok (), s) => ⟨.ok .done, emptied, s⟩ := by
  unfold step
  generalize inner w.inner w.buffer = result at done
  obtain ⟨outcome, template, buffer⟩ := result
  obtain rfl : outcome = .ok .done := done
  simp only [finish, output, OutputBuffer.take]
  cases PrintDirective.applyAll σ w.directives (w.kind.elim (.string buffer.text)
    fun kind => .sanitized ⟨buffer.text, kind⟩) <;> rfl

theorem step_project {T : Type} [Sink T] {f : S → T} (projects : Sink.Projects f) (σ : CellStore)
    (inner : τ → OutputBuffer → StepResult τ OutputBuffer) (w : Escaped τ) (s : S) :
    w.step σ inner (f s) =
      ⟨(w.step σ inner s).outcome, (w.step σ inner s).template, f (w.step σ inner s).sink⟩ := by
  by_cases done : (inner w.inner w.buffer).outcome = .ok .done
  · rw [step_done done, step_done done]
    rcases output σ w.directives w.kind (inner w.inner w.buffer).sink.text with e | value
    · rfl
    · simp only [projects.append]
      rcases Sink.append (σ.text value) s with ⟨_ | _, s⟩ <;> rfl
  · rw [step_unfinished done, step_unfinished done]

/-- Templates behind directives are templates again. -/
def behaviour (b : Behaviour τ) : Behaviour (Escaped τ) where
  step σ w s := w.step σ (b.step σ) s
  project projects σ w s := step_project projects σ (b.step σ) w s

/-- A step of a wrapper next to the step that the template inside takes, when that one has written a text in all its
steps together. -/
inductive Delivers (directives : List PrintDirective) (kind : Option ContentKind) (text : String) :
    Report → Report → Prop
  /-- A pause or an error of the template is passed on. -/
  | passed {σ outcome events} (unfinished : outcome ≠ .ok .done) :
      Delivers directives kind text ⟨σ, outcome, events⟩ ⟨σ, outcome, []⟩
  | failed {σ events e} (fails : output σ directives kind text = .error e) :
      Delivers directives kind text ⟨σ, .ok .done, events⟩ ⟨σ, .error e, []⟩
  | written {σ events value} (gives : output σ directives kind text = .ok value) :
      Delivers directives kind text ⟨σ, .ok .done, events⟩ ⟨σ, .ok .done, [.append (σ.text value) (.ok ())]⟩
  | refused {σ events value e} (gives : output σ directives kind text = .ok value) :
      Delivers directives kind text ⟨σ, .ok .done, events⟩
        ⟨σ, .error (.ofKind (.sink e)), [.append (σ.text value) (.error e)]⟩

/-- A step of a wrapper delivers what the template inside has written, in earlier steps and in this one. -/
theorem report_delivers (b : Behaviour τ) (σ : CellStore) (w : Escaped τ) (s : S) :
    Delivers w.directives w.kind
      (w.buffer.text ++ SinkEvent.written (b.report σ w.inner w.buffer).events) (b.report σ w.inner w.buffer)
      ((behaviour b).report σ w s) := by
  rw [← b.step_buffer]
  have outcome : (b.report σ w.inner w.buffer).outcome = (b.step σ w.inner w.buffer).outcome := by
    rw [b.step_eq_watched]
  rw [show b.report σ w.inner w.buffer =
    ⟨σ, (b.step σ w.inner w.buffer).outcome, (b.report σ w.inner w.buffer).events⟩ by rw [← outcome]; rfl]
  simp only [Behaviour.report, behaviour]
  by_cases done : (b.step σ w.inner w.buffer).outcome = .ok .done
  · rw [step_done done, done]
    cases gives : output σ w.directives w.kind (b.step σ w.inner w.buffer).sink.text with
    | error e => exact .failed gives
    | ok value =>
      have watched : Sink.append (σ.text value) (Recorder.watch s) = ((Sink.append (σ.text value) s).1,
          ⟨(Sink.append (σ.text value) s).2, [.append (σ.text value) (Sink.append (σ.text value) s).1]⟩) := rfl
      simp only [watched]
      rcases Sink.append (σ.text value) s with ⟨_ | _, after⟩
      · exact .refused gives
      · exact .written gives
  · rw [step_unfinished done]
    exact .passed done

theorem resumable_step (b : Behaviour τ) (σ : CellStore) (w : Escaped τ) (s : S) :
    ((behaviour b).step σ w s).resumable = (b.step σ w.inner w.buffer).resumable := by
  simp only [behaviour]
  by_cases done : (b.step σ w.inner w.buffer).outcome = .ok .done
  · rw [step_done done, StepResult.resumable.eq_1 (b.step σ w.inner w.buffer), done]
    cases output σ w.directives w.kind (b.step σ w.inner w.buffer).sink.text with
    | error e => rfl
    | ok value =>
      simp only
      rcases Sink.append (σ.text value) s with ⟨_ | _, s⟩ <;> rfl
  · rw [step_unfinished done]
    rfl

/-- A render behind directives next to the same render by itself, into a buffer that is left alone. -/
theorem run_delivers (b : Behaviour τ) (w : Escaped τ) (s : S) (visits : List (Visit S)) :
    let inner := b.run w.inner w.buffer (visits.map fun visit => ⟨visit.store, id⟩)
    let outer := (behaviour b).run w s visits
    outer.length = inner.length ∧ ∀ i given shown, inner[i]? = some given → outer[i]? = some shown →
      Delivers w.directives w.kind (w.buffer.text ++ Report.written (inner.take (i + 1))) given shown := by
  -- The buffer is generalized: later steps start with what the earlier ones have put there.
  induction visits generalizing w s with
  | nil => exact ⟨rfl, fun i given shown found => by simp [Behaviour.run] at found⟩
  | cons visit visits ih =>
    have here := report_delivers b visit.store w (visit.relieve s)
    have first (later : List Report) :
        Report.written ((b.report visit.store w.inner w.buffer :: later).take (0 + 1)) =
          SinkEvent.written (b.report visit.store w.inner w.buffer).events := by
      simp [Report.written]
    simp only [List.map_cons, Behaviour.run, id, resumable_step]
    cases resumable : (b.step visit.store w.inner w.buffer).resumable with
    | false =>
      refine ⟨rfl, fun i given shown found found' => ?_⟩
      cases i with
      | succ i => cases found
      | zero =>
        obtain rfl := Option.some.inj found
        obtain rfl := Option.some.inj found'
        rw [first]
        exact here
    | true =>
      have paused : (b.step visit.store w.inner w.buffer).outcome ≠ .ok .done := fun done => by
        simp [StepResult.resumable, done] at resumable
      rw [show (behaviour b).step visit.store w (visit.relieve s) = _ from step_unfinished paused (visit.relieve s)]
      obtain ⟨length, delivers⟩ := ih
        { w with
          inner := (b.step visit.store w.inner w.buffer).template
          buffer := (b.step visit.store w.inner w.buffer).sink }
        (visit.relieve s)
      refine ⟨congrArg (· + 1) length, fun i given shown found found' => ?_⟩
      cases i with
      | zero =>
        obtain rfl := Option.some.inj found
        obtain rfl := Option.some.inj found'
        rw [first]
        exact here
      | succ i =>
        have later := delivers i given shown found found'
        simp only [b.step_buffer, String.append_assoc] at later
        rw [List.take_succ_cons, Report.written_cons]
        exact later

end Escaped

end TemplateEngine
