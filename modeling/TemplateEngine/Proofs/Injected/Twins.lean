import TemplateEngine.Proofs.CallGraph.Closure
import TemplateEngine.Proofs.Injected.Mentions

namespace TemplateEngine

/-- Two records of injected values that look the same to a template and to everything behind it. -/
structure Confinement (ctx : RenderContext) where
  root : TemplateEntry
  injected : Record
  other : Record
  bound : ctx.delegates.table = ctx.registry.delegates
  truthful : ∀ entry, ctx.registry.Reaches root entry → entry.Truthful
  agree : ∀ key, ctx.registry.Reads root key → Record.field injected key = Record.field other key

namespace Confinement

variable {ctx : RenderContext} (c : Confinement ctx)

/-- A program from a template behind the root, with the first of the injected records. -/
structure Confines (frame : Activation) : Prop where
  injected : frame.injected = c.injected
  declared : ∃ entry, ctx.registry.Reaches c.root entry ∧
    ∀ step ∈ frame.todo, step.instruction.Declared entry.metadata

/-- A template and the same template with the other injected values. -/
inductive Twin : Instance → Instance → Prop
  | empty : Twin .empty .empty
  | chunks (rest) : Twin (.chunks rest) (.chunks rest)
  | program {frame} (confined : c.Confines frame) :
      Twin (.program frame none) (.program { frame with injected := c.other } none)
  | calling {frame a b} (confined : c.Confines frame) (inside : Twin a b) :
      Twin (.program frame (some a)) (.program { frame with injected := c.other } (some b))
  | escaped {w : Escaped Instance} {inner} (inside : Twin w.inner inner) :
      Twin (.escaped w) (.escaped { w with inner := inner })

/-- What twins do next: the same, or they start callees that are twins. -/
inductive SameEffect : Except Obstacle Effect → Except Obstacle Effect → Prop
  | same {effect : Except Obstacle Effect} (quiet : ∀ callee, effect ≠ .ok (.enter callee)) : SameEffect effect effect
  | enter {a b} (callees : c.Twin a b) : SameEffect (.ok (.enter a)) (.ok (.enter b))

/-- Results that are the same, and leave twins. -/
structure SameResult {S : Type} (a b : StepResult Instance S) : Prop where
  outcome : a.outcome = b.outcome
  template : c.Twin a.template b.template
  sink : a.sink = b.sink

variable {c}

theorem Confines.rest {frame : Activation} {first : Step} {rest : List Step}
    (confined : c.Confines { frame with todo := first :: rest }) : c.Confines { frame with todo := rest } := by
  obtain ⟨entry, reaches, declared⟩ := confined.declared
  exact ⟨confined.injected, entry, reaches, fun step member => declared step (List.mem_cons_of_mem first member)⟩

theorem start_twin {entry : TemplateEntry} (reaches : ctx.registry.Reaches c.root entry) (params : Record) :
    c.Twin (entry.start params c.injected) (entry.start params c.other) := by
  cases body : entry.body with
  | program p =>
    simp only [TemplateEntry.start, body]
    exact .program ⟨rfl, entry, reaches, c.truthful entry reaches p body⟩
  | chunks texts =>
    simp only [TemplateEntry.start, body]
    exact .chunks texts
  | empty =>
    simp only [TemplateEntry.start, body]
    exact .empty

variable {σ : CellStore} {params : Record} {entry : TemplateEntry} {instruction : Instruction}

theorem slot_eq (reaches : ctx.registry.Reaches c.root entry) (declared : instruction.Declared entry.metadata)
    {ref : ValueRef} (member : ref ∈ instruction.mentions) : ref.slot params c.injected = ref.slot params c.other := by
  cases ref with
  | literal | param => rfl
  | injected key => exact c.agree key ⟨entry, reaches, declared.injected key member⟩

theorem record_eq (reaches : ctx.registry.Reaches c.root entry) (declared : instruction.Declared entry.metadata)
    {data : CallData} (passed : data ∈ instruction.passes) :
    data.record params c.injected = data.record params c.other := by
  refine CallData.record_congr fun ref member => slot_eq reaches declared ?_
  exact List.mem_append_right _ (List.mem_flatMap.mpr ⟨data, Option.mem_toList.mpr passed, member⟩)

theorem sameEffect_delegate {target : DelegateCall} (reaches : ctx.registry.Reaches c.root entry)
    (declared : (Instruction.delegateCall target).Declared entry.metadata) :
    c.SameEffect ((target.start ctx σ params c.injected).map .enter)
      ((target.start ctx σ params c.other).map .enter) := by
  have read : target.variant.read σ params c.injected = target.variant.read σ params c.other :=
    ValueRef.read_congr σ (slot_eq reaches declared (List.mem_append_left _ (List.mem_singleton_self _)))
  have passed : target.data.record params c.injected = target.data.record params c.other :=
    record_eq reaches declared rfl
  -- Directives that the target wants around its callee are looked up in the same environment.
  have wrapped {a b : Instance} (twins : c.Twin a b) (kind : Option ContentKind) :
      c.SameEffect
        (Except.map .enter (if target.escapers.isEmpty then pure a else
          (target.escapers.mapM ctx.directives.lookup).mapError .ofKind >>= fun directives =>
            pure (a.withEscapers directives kind)))
        (Except.map .enter (if target.escapers.isEmpty then pure b else
          (target.escapers.mapM ctx.directives.lookup).mapError .ofKind >>= fun directives =>
            pure (b.withEscapers directives kind))) := by
    split
    · exact .enter twins
    · cases target.escapers.mapM ctx.directives.lookup with
      | error e => exact .same fun callee entered => by cases entered
      | ok directives => exact .enter (.escaped twins)
  simp only [DelegateCall.start, read, passed]
  cases target.variant.read σ params c.other with
  | error obstacle => exact .same fun callee entered => by cases entered
  | ok variant =>
    simp only [RenderContext.selectDelegate, bind, Except.bind]
    cases selected : ctx.delegates.select? target.callee (variant.toVariant σ) with
    | some implementation =>
      have implements := DelegateView.mem_implementations_of_select? selected
      rw [c.bound] at implements
      have called := Registry.Calls.implementation (declared.delegate target.callee rfl) implements
      exact wrapped (start_twin (reaches.tail called) _) _
    | none =>
      cases target.allowEmpty with
      | true => exact wrapped .empty _
      | false => exact .same fun callee entered => by cases entered

/-- An instruction does the same with either record, and its callees are twins. -/
theorem sameEffect (reaches : ctx.registry.Reaches c.root entry) (declared : instruction.Declared entry.metadata) :
    c.SameEffect (instruction.effect ctx σ params c.injected) (instruction.effect ctx σ params c.other) := by
  cases passes : instruction.passes with
  | none =>
    have same : instruction.effect ctx σ params c.injected = instruction.effect ctx σ params c.other :=
      Instruction.effect_congr passes fun ref member => slot_eq reaches declared (List.mem_append_left _ member)
    rw [same]
    exact .same (Instruction.effect_ne_enter passes)
  | some data =>
    cases instruction with
    | text | css | xid | print | printCall | message => cases passes
    | delegateCall target => exact sameEffect_delegate reaches declared
    | call name data =>
      simp only [Instruction.effect, RenderContext.create, record_eq reaches declared rfl]
      cases found : ctx.registry.lookup name with
      | error e => exact .same fun callee entered => by cases entered
      | ok callee =>
        have called := Registry.Calls.named (declared.callee name rfl) found
        exact .enter (start_twin (reaches.tail called) _)

variable {S : Type} [Sink S] {depth : Nat} {frame : Activation} {first : Step} {rest : List Step}

theorem program_twin {steps : List Step} (confined : c.Confines { frame with todo := steps })
    {callee callee' : Option Instance} (twins : Option.Rel c.Twin callee callee') :
    c.Twin (.program { frame with todo := steps } callee)
      (.program { frame with todo := steps, injected := c.other } callee') := by
  cases twins with
  | none => exact .program confined
  | some twins => exact .calling confined twins

theorem Confines.sameEffect (confined : c.Confines { frame with todo := first :: rest }) (σ : CellStore) :
    c.SameEffect (first.instruction.effect ctx σ frame.params frame.injected)
      (first.instruction.effect ctx σ frame.params c.other) := by
  obtain ⟨entry, reaches, declared⟩ := confined.declared
  have injected : frame.injected = c.injected := confined.injected
  rw [injected]
  exact Confinement.sameEffect reaches (declared first List.mem_cons_self)

theorem complete_sameResult (confined : c.Confines { frame with todo := rest })
    {callee callee' : Option Instance} (twins : Option.Rel c.Twin callee callee')
    (goOn : ∀ s : S, c.SameResult (frame.run ctx σ (Instance.step ctx σ depth) rest callee s)
      ({ frame with injected := c.other }.run ctx σ (Instance.step ctx σ depth) rest callee' s)) (s : S) :
    c.SameResult ((frame.complete rest callee none).carryOut (Instance.step ctx σ (depth + 1)) s)
      (({ frame with injected := c.other }.complete rest callee' none).carryOut
        (Instance.step ctx σ (depth + 1)) s) := by
  rw [Activation.carryOut_complete, Activation.carryOut_complete]
  cases rest with
  | nil => exact ⟨rfl, program_twin confined twins, rfl⟩
  | cons second rest =>
    rcases Sink.isFull s with ⟨_ | _, s⟩
    · exact goOn s
    · exact ⟨rfl, program_twin confined twins, rfl⟩

theorem afterCallee_sameResult (confined : c.Confines { frame with todo := first :: rest })
    (goOn : ∀ s : S, c.SameResult (frame.run ctx σ (Instance.step ctx σ depth) rest none s)
      ({ frame with injected := c.other }.run ctx σ (Instance.step ctx σ depth) rest none s))
    {result result' : StepResult Instance S} (same : c.SameResult result result') :
    c.SameResult (frame.afterCallee ctx σ depth first rest result)
      ({ frame with injected := c.other }.afterCallee ctx σ depth first rest result') := by
  obtain ⟨outcome, callee, s⟩ := result
  obtain ⟨outcome', callee', s'⟩ := result'
  obtain ⟨rfl, twins, rfl⟩ : outcome = outcome' ∧ c.Twin callee callee' ∧ s = s' :=
    ⟨same.outcome, same.template, same.sink⟩
  rcases outcome with e | status
  · exact ⟨rfl, program_twin confined (.some twins), rfl⟩
  · cases status with
    | done => exact complete_sameResult confined.rest .none goOn s
    | limited | detached c => exact ⟨rfl, program_twin confined (.some twins), rfl⟩

theorem run_sameResult
    (callees : ∀ a b, c.Twin a b → ∀ s : S, c.SameResult (a.step ctx σ depth s) (b.step ctx σ depth s))
    {steps : List Step} (confined : c.Confines { frame with todo := steps }) {callee callee' : Option Instance}
    (twins : Option.Rel c.Twin callee callee') (s : S) :
    c.SameResult (frame.run ctx σ (Instance.step ctx σ depth) steps callee s)
      ({ frame with injected := c.other }.run ctx σ (Instance.step ctx σ depth) steps callee' s) := by
  induction steps generalizing callee callee' s with
  | nil => exact ⟨rfl, program_twin confined twins, rfl⟩
  | cons first rest ih =>
    have goOn {callee callee' : Option Instance} (twins : Option.Rel c.Twin callee callee') (s : S) :=
      ih confined.rest twins s
    have inFlight {a b : Instance} (twins : c.Twin a b) :
        c.SameResult (frame.afterCallee ctx σ depth first rest (a.step ctx σ depth s))
          ({ frame with injected := c.other }.afterCallee ctx σ depth first rest (b.step ctx σ depth s)) :=
      afterCallee_sameResult confined (goOn .none) (callees a b twins s)
    have running : Option.Rel c.Twin (first.inFlight callee) (first.inFlight callee') := by
      rw [Step.inFlight, Step.inFlight]
      split
      · exact twins
      · exact .none
    cases slot : first.inFlight callee with
    | some a =>
      cases slot' : first.inFlight callee' with
      | none => simp [slot, slot'] at running
      | some b =>
        rw [slot, slot'] at running
        cases running with
        | some related =>
          rw [Activation.run_inFlight ctx σ depth frame rest slot, Activation.run_inFlight ctx σ depth _ rest slot']
          exact inFlight related
    | none =>
      have slot' : first.inFlight callee' = none := by
        rw [slot] at running
        cases other : first.inFlight callee' with
        | none => rfl
        | some b => simp [other] at running
      have stuck : c.Twin (.program { frame with todo := first :: rest } callee)
          (.program { frame with todo := first :: rest, injected := c.other } callee') := program_twin confined twins
      have written (refusal : SinkError → ErrorKind) (text : String) :
          c.SameResult ((frame.complete rest callee (some (frame.output first rest callee refusal text))).carryOut
              (Instance.step ctx σ (depth + 1)) s)
            (({ frame with injected := c.other }.complete rest callee'
              (some ({ frame with injected := c.other }.output first rest callee' refusal text))).carryOut
                (Instance.step ctx σ (depth + 1)) s) := by
        rw [Activation.carryOut_complete_some, Activation.carryOut_complete_some]
        simp only [Activation.output]
        rcases Sink.append text s with ⟨e | _, s⟩
        · exact ⟨rfl, stuck, rfl⟩
        · exact complete_sameResult confined.rest twins (goOn twins) s
      have unfold (callee : Instance) (s : S) := callee.step_eq_carryOut ctx σ depth s
      rw [Activation.run_eq_carryOut ctx σ depth unfold, Activation.run_eq_carryOut ctx σ depth unfold]
      have effects := confined.sameEffect σ
      have calls {callee : Instance}
          (entered : first.instruction.effect ctx σ frame.params frame.injected = .ok (.enter callee)) :
          first.instruction.calls = true := Instruction.calls_of_enter entered
      simp only [Activation.turn, slot, slot']
      generalize first.instruction.effect ctx σ frame.params frame.injected = effect at effects calls
      generalize first.instruction.effect ctx σ frame.params c.other = effect' at effects
      cases effects with
      | enter callees =>
        simp only [Activation.carryOut_relay _ _ _ _ (calls rfl), ← unfold]
        exact inFlight callees
      | same quiet =>
        rcases effect with obstacle | effect
        · cases obstacle <;> exact ⟨rfl, stuck, rfl⟩
        · cases effect with
          | write text => exact written .sink text
          | writeMessage text => exact written (fun e => .message (.sink e)) text
          | silent => exact complete_sameResult confined.rest twins (goOn twins) s
          | enter callee => exact absurd rfl (quiet callee)

theorem afterInner_sameResult (w : Escaped Instance) {goOn : Instance → S → StepResult Instance S}
    {result result' : StepResult Instance OutputBuffer} (same : c.SameResult result result') (s : S) {inner : Instance} :
    c.SameResult (w.afterInner σ goOn s result) ({ w with inner := inner }.afterInner σ goOn s result') := by
  obtain ⟨outcome, a, buffer⟩ := result
  obtain ⟨outcome', b, buffer'⟩ := result'
  obtain ⟨rfl, twins, rfl⟩ : outcome = outcome' ∧ c.Twin a b ∧ buffer = buffer' :=
    ⟨same.outcome, same.template, same.sink⟩
  have wrapped (buffer : OutputBuffer) :
      c.Twin (.escaped { w with inner := a, buffer := buffer }) (.escaped { w with inner := b, buffer := buffer }) :=
    .escaped (w := { w with inner := a, buffer := buffer }) twins
  rcases outcome with e | status
  · exact ⟨rfl, wrapped buffer, rfl⟩
  · cases status with
    | limited | detached => exact ⟨rfl, wrapped buffer, rfl⟩
    | done =>
      simp only [Escaped.afterInner, Escaped.deliver, Escaped.finish]
      rcases (PrintDirective.applyAll σ w.directives (w.kind.elim (.string buffer.take.1)
        fun kind => .sanitized ⟨buffer.take.1, kind⟩)).map σ.text with kind | text
      · exact ⟨rfl, wrapped buffer.take.2, rfl⟩
      · simp only [Turn.carryOut]
        rcases Sink.append text s with ⟨_ | _, s⟩ <;> exact ⟨rfl, wrapped buffer.take.2, rfl⟩

/-- Twins take the same steps, at every depth of calls. -/
theorem step_sameResult {a b : Instance} (twins : c.Twin a b) (s : S) :
    c.SameResult (a.step ctx σ depth s) (b.step ctx σ depth s) := by
  induction depth generalizing S a b with
  | zero => exact ⟨rfl, twins, rfl⟩
  | succ depth ih =>
    cases twins with
    | empty => exact ⟨rfl, .empty, rfl⟩
    | chunks rest =>
      cases rest with
      | nil => exact ⟨rfl, .chunks [], rfl⟩
      | cons text rest =>
        simp only [Instance.step, Instance.stepChunks]
        rcases Sink.append text s with ⟨_ | _, s⟩ <;> exact ⟨rfl, .chunks _, rfl⟩
    | program confined => exact run_sameResult (fun a b twins s => ih twins s) confined .none s
    | calling confined inside => exact run_sameResult (fun a b twins s => ih twins s) confined (.some inside) s
    | @escaped w inner inside =>
      rw [Escaped.step_escaped, Escaped.step_escaped]
      exact afterInner_sameResult w (ih inside w.buffer) s

end Confinement

end TemplateEngine
