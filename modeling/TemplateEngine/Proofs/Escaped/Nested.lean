import TemplateEngine.Proofs.Escaped.Atomic
import TemplateEngine.Proofs.Turn.Step

namespace TemplateEngine

/-- A program at a call. -/
structure Caller where
  frame : Activation
  call : Step
  rest : List Step
  calls : call.instruction.calls = true

namespace Caller

def around (caller : Caller) (callee : Option Instance) : Instance :=
  .program { caller.frame with todo := caller.call :: caller.rest } callee

/-- The callee of a caller is in flight, or it is the one that the call starts. -/
inductive At (ctx : RenderContext) (σ : CellStore) (caller : Caller) (callee : Instance) : Option Instance → Prop
  | flying : At ctx σ caller callee (some callee)
  | starting (entered : caller.call.instruction.effect ctx σ caller.frame.params caller.frame.injected =
      .ok (.enter callee)) : At ctx σ caller callee none

/-- A template as the callee of some callers, the outermost one first. -/
def nest (callers : List Caller) (template : Instance) : Instance :=
  callers.foldr (fun caller callee => caller.around (some callee)) template

/-- An error as it comes out of some callers. -/
def frames (callers : List Caller) (e : RenderError) : RenderError :=
  callers.foldr (fun caller e => e.withFrame caller.frame.name caller.call.position) e

variable {ctx : RenderContext} {σ : CellStore} {depth : Nat} {S : Type} [Sink S]

theorem step_at {caller : Caller} {callee : Instance} {flying : Option Instance} (at' : caller.At ctx σ callee flying)
    (s : S) :
    (caller.around flying).step ctx σ (depth + 1) s =
      caller.frame.afterCallee ctx σ depth caller.call caller.rest (callee.step ctx σ depth s) := by
  rw [around, Instance.step, Activation.run_withTodo,
    ← Activation.run_inFlight ctx σ depth caller.frame caller.rest (Step.inFlight_of_calls caller.calls (some callee))]
  cases at' with
  | flying => rfl
  | starting entered =>
    simp only [Activation.run, entered, Step.inFlight_of_calls caller.calls]

theorem afterCallee_unfinished (caller : Caller) {outcome : Except RenderError Status} (unfinished : outcome ≠ .ok .done)
    (callee : Instance) (s : S) :
    caller.frame.afterCallee ctx σ depth caller.call caller.rest ⟨outcome, callee, s⟩ =
      ⟨outcome.mapError fun e => e.withFrame caller.frame.name caller.call.position, caller.around (some callee),
        s⟩ := by
  rcases outcome with e | status
  · rfl
  · cases status with
    | limited | detached => rfl
    | done => exact absurd rfl unfinished

/-- Callers pass on a pause or an error of a template, with their frames. -/
theorem step_nest_unfinished (callers : List Caller) {template left : Instance} {s after : S}
    {outcome : Except RenderError Status} (stops : template.step ctx σ depth s = ⟨outcome, left, after⟩)
    (unfinished : outcome ≠ .ok .done) :
    (nest callers template).step ctx σ (depth + callers.length) s =
      ⟨outcome.mapError (frames callers), nest callers left, after⟩ := by
  -- The outermost caller goes around what the others have come to by the hypothesis.
  induction callers with
  | nil =>
    refine Eq.trans stops ?_
    cases outcome <;> rfl
  | cons caller callers ih =>
    rw [nest, List.foldr_cons, List.length_cons, ← Nat.add_assoc, step_at .flying, ← nest, ih,
      afterCallee_unfinished caller (mt (mapError_eq_ok _).mp unfinished)]
    cases outcome <;> rfl

theorem step_nest_congr (callers : List Caller) {template other : Instance} {s t : S}
    (same : template.step ctx σ depth s = other.step ctx σ depth t) :
    (nest callers template).step ctx σ (depth + callers.length) s =
      (nest callers other).step ctx σ (depth + callers.length) t := by
  induction callers with
  | nil => exact same
  | cons caller callers ih =>
    simp only [nest, List.foldr_cons, List.length_cons, ← Nat.add_assoc, step_at .flying]
      at ih ⊢
    rw [ih]

end Caller

namespace Escaped

variable {ctx : RenderContext} {σ : CellStore} {depth : Nat} {S : Type} [Sink S]

theorem instance_step (w : Escaped Instance) (s : S) :
    Instance.step ctx σ (depth + 1) (.escaped w) s =
      ⟨(w.step σ (Instance.step ctx σ depth) s).outcome, .escaped (w.step σ (Instance.step ctx σ depth) s).template,
        (w.step σ (Instance.step ctx σ depth) s).sink⟩ := rfl

theorem step_congr {w : Escaped Instance} {inner : Instance} {buffer : OutputBuffer}
    {advance : Instance → OutputBuffer → StepResult Instance OutputBuffer}
    (same : advance w.inner w.buffer = advance inner buffer) (s : S) :
    w.step σ advance s = { w with inner := inner, buffer := buffer }.step σ advance s := by
  unfold step
  rw [same]

/-- A delegate behind directives that is at a call of another one, with some callers in between. -/
def Encloses (ctx : RenderContext) (σ : CellStore) (w nested : Escaped Instance) (callers : List Caller)
    (caller : Caller) : Prop :=
  ∃ flying, w.inner = Caller.nest callers (caller.around flying) ∧ caller.At ctx σ (.escaped nested) flying

/-- The same wrapper when the call inside has come to some point, with a text in its buffer. -/
def reach (w : Escaped Instance) (callers : List Caller) (caller : Caller) (callee : Instance) (text : String) :
    Instance :=
  .escaped { w with inner := Caller.nest callers (caller.around (some callee)), buffer := ⟨text⟩ }

variable {w nested : Escaped Instance} {caller : Caller} {callers : List Caller}

/-- If the wrapper inside comes to a pause or an error without writing, the one around it passes that on. -/
theorem Encloses.step_unfinished (encloses : Encloses ctx σ w nested callers caller)
    {outcome : Except RenderError Status} {left : Escaped Instance}
    (stops : nested.step σ (Instance.step ctx σ depth) w.buffer = ⟨outcome, left, w.buffer⟩)
    (unfinished : outcome ≠ .ok .done) (s : S) :
    Instance.step ctx σ (depth + 1 + 1 + callers.length + 1) (.escaped w) s =
      ⟨outcome.mapError (Caller.frames (callers ++ [caller])), w.reach callers caller (.escaped left) w.buffer.text, s⟩ := by
  obtain ⟨flying, inner, at'⟩ := encloses
  have stopped : (caller.around flying).step ctx σ (depth + 1 + 1) w.buffer =
      ⟨outcome.mapError fun e => e.withFrame caller.frame.name caller.call.position,
        caller.around (some (.escaped left)), w.buffer⟩ := by
    rw [Caller.step_at at', instance_step, stops]
    exact caller.afterCallee_unfinished unfinished _ _
  have passed : (outcome.mapError fun e => e.withFrame caller.frame.name caller.call.position) ≠ .ok .done :=
    mt (mapError_eq_ok _).mp unfinished
  have result := Caller.step_nest_unfinished callers stopped passed
  rw [← inner] at result
  have paused : (Instance.step ctx σ (depth + 1 + 1 + callers.length) w.inner w.buffer).outcome ≠ .ok .done := by
    rw [result]
    exact mt (mapError_eq_ok _).mp passed
  rw [instance_step, Escaped.step_unfinished paused, result]
  cases outcome with
  | ok status => rfl
  | error e =>
    simp only [mapError_error, Caller.frames, List.foldr_append, List.foldr_cons, List.foldr_nil]
    rfl

theorem Encloses.step_done (encloses : Encloses ctx σ w nested callers caller) {left : Escaped Instance} {text : String}
    (finishes : nested.step σ (Instance.step ctx σ depth) w.buffer = ⟨.ok .done, left, ⟨w.buffer.text ++ text⟩⟩) (s : S) :
    Instance.step ctx σ (depth + 1 + 1 + callers.length + 1) (.escaped w) s =
      Instance.step ctx σ (depth + 1 + 1 + callers.length + 1)
        (w.reach callers caller .empty (w.buffer.text ++ text)) s := by
  obtain ⟨flying, inner, at'⟩ := encloses
  have same : (caller.around flying).step ctx σ (depth + 1 + 1) w.buffer =
      (caller.around (some .empty)).step ctx σ (depth + 1 + 1) ⟨w.buffer.text ++ text⟩ := by
    rw [Caller.step_at at', Caller.step_at .flying, instance_step, finishes]
    rfl
  have result := Caller.step_nest_congr callers same
  rw [← inner] at result
  rw [reach, instance_step, instance_step, step_congr result s]

/-- A call behind directives inside a delegate behind directives is atomic on the buffer of that one. Before its
template is done the buffer stays as it is, and so it does if a directive fails; in the step in which it is done the
buffer takes one text, and the callers go on. The sink outside sees nothing of it. -/
theorem Encloses.step (encloses : Encloses ctx σ w nested callers caller) (depth : Nat) (s : S) :
    let own := nested.inner.step ctx σ depth nested.buffer
    let advance := fun template => Instance.step ctx σ (depth + 1 + 1 + callers.length + 1) template s
    let stopped := fun outcome left => (⟨Except.mapError (Caller.frames (callers ++ [caller])) outcome,
      w.reach callers caller (.escaped left) w.buffer.text, s⟩ : StepResult Instance S)
    (own.outcome ≠ .ok .done →
        advance (.escaped w) = stopped own.outcome { nested with inner := own.template, buffer := own.sink }) ∧
      (own.outcome = .ok .done → ∀ e, output σ nested.directives nested.kind own.sink.text = .error e →
        advance (.escaped w) =
          stopped (.error e) { nested with inner := own.template, buffer := .empty }) ∧
      (own.outcome = .ok .done → ∀ value, output σ nested.directives nested.kind own.sink.text = .ok value →
        advance (.escaped w) = advance (w.reach callers caller .empty (w.buffer.text ++ σ.text value))) := by
  intro own advance stopped
  refine ⟨fun unfinished => ?_, fun done e fails => ?_, fun done value gives => ?_⟩
  · exact encloses.step_unfinished (Escaped.step_unfinished unfinished w.buffer) unfinished s
  · refine encloses.step_unfinished ((Escaped.step_done done w.buffer).trans ?_) (by simp) s
    rw [fails]
  · have finishes : nested.step σ (Instance.step ctx σ depth) w.buffer =
        ⟨.ok .done, { nested with inner := own.template, buffer := .empty }, ⟨w.buffer.text ++ σ.text value⟩⟩ := by
      refine (Escaped.step_done done w.buffer).trans ?_
      rw [gives]
      rfl
    exact encloses.step_done finishes s

theorem run_instance (ctx : RenderContext) (depth : Nat) (w : Escaped Instance) (s : S) (visits : List (Visit S)) :
    (Instance.behaviour ctx (depth + 1)).run (.escaped w) s visits =
      (behaviour (Instance.behaviour ctx depth)).run w s visits := by
  induction visits generalizing w s with
  | nil => rfl
  | cons visit visits ih =>
    have step : (Instance.behaviour ctx (depth + 1)).step visit.store (.escaped w) (visit.relieve s) =
        ⟨((behaviour (Instance.behaviour ctx depth)).step visit.store w (visit.relieve s)).outcome,
          .escaped ((behaviour (Instance.behaviour ctx depth)).step visit.store w (visit.relieve s)).template,
          ((behaviour (Instance.behaviour ctx depth)).step visit.store w (visit.relieve s)).sink⟩ := rfl
    simp only [Behaviour.run, step, ih]
    rfl

end Escaped

/-- A delegate call with directives looks them up in order, and starts its callee behind them with the kind that the
callee is declared to have. -/
theorem DelegateCall.start_escaped {ctx : RenderContext} {σ : CellStore} {params injected : Record}
    {call : DelegateCall} {callee : Instance} (wrapped : call.escapers ≠ [])
    (started : call.start ctx σ params injected = .ok callee) :
    ∃ variant resolved directives, call.variant.read σ params injected = .ok variant ∧
      ctx.selectDelegate call.callee (variant.toVariant σ) call.allowEmpty (call.data.record params injected)
        injected = .ok resolved ∧
      call.escapers.mapM ctx.directives.lookup = .ok directives ∧
      callee = .escaped ⟨resolved.template, directives, resolved.kind, .empty⟩ := by
  obtain ⟨variant, resolved, read, selected, ⟨plain, -⟩ | ⟨directives, -, found, rfl⟩⟩ := start_eq_ok started
  · exact absurd plain wrapped
  · exact ⟨variant, resolved, directives, read, selected, found, rfl⟩

/-- A template behind directives is atomic on its sink, whatever template it is and whenever it pauses. Until it is
done its own pauses and errors are all that is seen, and nothing is asked of the sink; when it is done the sink gets a
single text, what the directives make of all that it has written. Every delegate call with directives is of that form,
and one inside another, any number of calls down, is atomic on the buffer of that other. -/
theorem RenderContext.escaped_atomic (ctx : RenderContext) :
    (∀ {τ : Type} (b : Behaviour τ) (template : τ) (directives : List PrintDirective) (kind : Option ContentKind)
        {S : Type} [Sink S] (s : S) (visits : List (Visit S)),
      let own := b.run template OutputBuffer.empty (visits.map fun visit => ⟨visit.store, id⟩)
      let seen := (Escaped.behaviour b).run ⟨template, directives, kind, .empty⟩ s visits
      seen.length = own.length ∧ ∀ i given shown, own[i]? = some given → seen[i]? = some shown →
        Escaped.Delivers directives kind (Report.written (own.take (i + 1))) given shown) ∧
    (∀ σ params injected (call : DelegateCall) callee, call.escapers ≠ [] →
      call.start ctx σ params injected = .ok callee →
      ∃ variant resolved directives, call.variant.read σ params injected = .ok variant ∧
        ctx.selectDelegate call.callee (variant.toVariant σ) call.allowEmpty (call.data.record params injected)
          injected = .ok resolved ∧
        call.escapers.mapM ctx.directives.lookup = .ok directives ∧
        ∀ depth {S : Type} [Sink S] (s : S) visits, (Instance.behaviour ctx (depth + 1)).run callee s visits =
          (Escaped.behaviour (Instance.behaviour ctx depth)).run
            ⟨resolved.template, directives, resolved.kind, .empty⟩ s visits) ∧
    ∀ σ (w nested : Escaped Instance) callers caller, Escaped.Encloses ctx σ w nested callers caller →
      ∀ depth {S : Type} [Sink S] (s : S),
      let own := nested.inner.step ctx σ depth nested.buffer
      let advance := fun template => Instance.step ctx σ (depth + 1 + 1 + callers.length + 1) template s
      let stopped := fun outcome left => (⟨Except.mapError (Caller.frames (callers ++ [caller])) outcome,
        w.reach callers caller (.escaped left) w.buffer.text, s⟩ : StepResult Instance S)
      (own.outcome ≠ .ok .done →
          advance (.escaped w) = stopped own.outcome { nested with inner := own.template, buffer := own.sink }) ∧
        (own.outcome = .ok .done → ∀ e, Escaped.output σ nested.directives nested.kind own.sink.text = .error e →
          advance (.escaped w) =
            stopped (.error e) { nested with inner := own.template, buffer := .empty }) ∧
        (own.outcome = .ok .done → ∀ value, Escaped.output σ nested.directives nested.kind own.sink.text = .ok value →
          advance (.escaped w) = advance (w.reach callers caller .empty (w.buffer.text ++ σ.text value))) := by
  refine ⟨fun {τ} b template directives kind {S} _ s visits => ?_, ?_, fun σ w nested callers caller encloses depth {S} _ s =>
    encloses.step depth s⟩
  · have delivers := Escaped.run_delivers b ⟨template, directives, kind, .empty⟩ s visits
    simpa only [OutputBuffer.empty, String.empty_append] using delivers
  · intro σ params injected call callee wrapped started
    obtain ⟨variant, resolved, directives, read, selected, found, rfl⟩ := DelegateCall.start_escaped wrapped started
    exact ⟨variant, resolved, directives, read, selected, found, fun depth {S} _ s visits =>
      Escaped.run_instance ctx depth _ s visits⟩

/-- An environment with a delegate that writes its parameter between angle brackets. -/
def noteContext : RenderContext :=
  let note : TemplateEntry := ⟨"note", default, .program ⟨"note",
    [⟨.text "<", none⟩, ⟨.print (.param "name") [], none⟩, ⟨.text ">", none⟩]⟩⟩
  { RenderContext.ofPrograms [] 3 with
    delegates := ⟨(DelegateTable.empty.add "note" "" "" note).toOption.getD .empty, SortedMap.empty, rfl⟩ }

def noteCall : DelegateCall :=
  ⟨"note", .literal (.ready .null), false, .params [("name", .literal (.deferred ⟨0⟩))], ["|escapeHtml"]⟩

/-- A letter that has come to that call. -/
def noteCaller : Caller :=
  ⟨⟨"letter", [], .empty, .empty⟩, ⟨.delegateCall noteCall, none⟩, [⟨.text "!", none⟩], rfl⟩

/-- A call of that delegate that has to wait for the parameter. Then the brackets are escaped with everything else.
Inside a letter with a directive of its own, the buffer of the letter stays as it is meanwhile. -/
theorem escaped_atomic_note :
    let pending : CellStore := ⟨[⟨"name", .pending⟩]⟩
    let visits : List (Visit OutputBuffer) := [⟨pending, id⟩, ⟨(pending.set ⟨0⟩ (.string "Ann")).2, id⟩]
    ∃ callee, noteCall.start noteContext pending .empty .empty = .ok callee ∧
      (let seen := (Instance.behaviour noteContext 3).run callee OutputBuffer.empty visits
      (seen.map fun report => (report.outcome.toOption, SinkEvent.written report.events)) =
          [(some (.detached ⟨0⟩), ""), (some .done, "&lt;Ann&gt;")] ∧
        ∃ template directives kind,
          let own := (Instance.behaviour noteContext 2).run template OutputBuffer.empty
            (visits.map fun visit => ⟨visit.store, id⟩)
          ∀ i given shown, own[i]? = some given → seen[i]? = some shown →
            Escaped.Delivers directives kind (Report.written (own.take (i + 1))) given shown) ∧
      let letter : Escaped Instance := ⟨noteCaller.around none, [.escapeHtml], none, ⟨"Dear "⟩⟩
      ∃ nested left, callee = .escaped nested ∧ Escaped.Encloses noteContext pending letter nested [] noteCaller ∧
        ∀ s : OutputBuffer, Instance.step noteContext pending 4 (.escaped letter) s =
          ⟨.ok (.detached ⟨0⟩), letter.reach [] noteCaller (.escaped left) "Dear ", s⟩ := by
  intro pending visits
  let callee := (noteCall.start noteContext pending .empty .empty).toOption.getD .empty
  have started : noteCall.start noteContext pending .empty .empty = .ok callee := rfl
  have seen : (((Instance.behaviour noteContext 3).run callee OutputBuffer.empty visits).map fun report =>
        (report.outcome.toOption, SinkEvent.written report.events)) =
      [(some (.detached ⟨0⟩), ""), (some .done, "&lt;Ann&gt;")] := by decide +kernel
  obtain ⟨delivers, calls, nests⟩ := noteContext.escaped_atomic
  obtain ⟨variant, resolved, directives, -, -, -, same⟩ :=
    calls pending .empty .empty noteCall callee (List.cons_ne_nil _ _) started
  refine ⟨callee, started, ⟨seen, resolved.template, directives, resolved.kind, ?_⟩, ?_⟩
  · rw [same]
    exact (delivers (Instance.behaviour noteContext 2) resolved.template directives resolved.kind OutputBuffer.empty
      visits).2
  · intro letter
    obtain ⟨nested, behind⟩ : ∃ nested, callee = .escaped nested := ⟨_, rfl⟩
    have entered : noteCaller.call.instruction.effect noteContext pending noteCaller.frame.params
        noteCaller.frame.injected = .ok (.enter (.escaped nested)) := by
      rw [← behind]
      rfl
    have encloses : Escaped.Encloses noteContext pending letter nested [] noteCaller :=
      ⟨none, rfl, .starting entered⟩
    let own := nested.inner.step noteContext pending 1 nested.buffer
    have waits : own.outcome = .ok (.detached ⟨0⟩) := by
      obtain rfl := Instance.escaped.inj behind
      rfl
    refine ⟨nested, { nested with inner := own.template, buffer := own.sink }, behind, encloses, fun s => ?_⟩
    have stays := (nests pending letter nested [] noteCaller encloses 1 s).1 (by simp [own, waits])
    simp only [own, waits] at stays
    exact stays

end TemplateEngine
