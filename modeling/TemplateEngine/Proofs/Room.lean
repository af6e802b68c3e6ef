import TemplateEngine.Proofs.Errors.CallStack
import TemplateEngine.Proofs.Errors.Raised
import TemplateEngine.Proofs.Injected.Mentions
import TemplateEngine.Proofs.Run

namespace TemplateEngine

/-- The environment with other room for nested calls. -/
def RenderContext.withRoom (ctx : RenderContext) (room : Nat) : RenderContext := { ctx with callDepth := room }

variable {ctx : RenderContext} {σ base : CellStore} {depth deeper room : Nat} {params injected : Record}

theorem Instruction.effect_withRoom (instruction : Instruction) :
    instruction.effect (ctx.withRoom room) σ params injected = instruction.effect ctx σ params injected := by
  cases instruction <;> rfl

theorem Instruction.MayCall.of_withRoom {instruction : Instruction} {entry : TemplateEntry}
    (calls : instruction.MayCall (ctx.withRoom room) entry) : instruction.MayCall ctx entry := by
  cases calls with
  | call found => exact .call found
  | delegate selected => exact .delegate selected

/-- What a template does next depends on the room that it is given, not on the room in all. -/
theorem Instance.turn_withRoom (template : Instance) :
    template.turn (ctx.withRoom room) σ depth = template.turn ctx σ depth := by
  induction depth generalizing template with
  | zero => rfl
  | succ depth ih =>
    have callees : turn (ctx.withRoom room) σ depth = turn ctx σ depth := funext ih
    cases template with
    | empty | chunks => rfl
    | escaped w => rw [turn, turn, callees]
    | program frame slot =>
      rw [turn, turn, callees]
      cases frame.todo with
      | nil => rfl
      | cons first rest => simp only [Activation.turn, Instruction.effect_withRoom]

/-- A turn that fails because a call finds no room. -/
def Turn.Cramped : Turn → Prop
  | .fail e _ => e.kind = .callsTooDeep
  | _ => False

theorem Activation.relay_cramped {frame : Activation} {first : Step} {rest : List Step} {turn : Turn}
    (cramped : turn.Cramped) : (frame.relay first rest turn).Cramped := by
  cases turn with
  | await c callee => exact cramped
  | fail e callee => exact cramped
  | act output pace next => exact cramped.elim

theorem Escaped.turn_cramped {w : Escaped Instance} {turn : Turn} (cramped : turn.Cramped) :
    (w.turn σ turn).Cramped := by
  cases turn with
  | await c inner => exact cramped
  | fail e inner => exact cramped
  | act output pace next => exact cramped.elim

namespace Instance

/-- With more room for calls a template does the same, unless it lacked room. -/
theorem turn_deeper (more : depth ≤ deeper) (template : Instance) :
    (template.turn ctx σ depth).Cramped ∨ template.turn ctx σ deeper = template.turn ctx σ depth := by
  induction depth generalizing deeper template with
  | zero => exact .inl rfl
  | succ depth ih =>
    obtain ⟨deeper, rfl⟩ : ∃ d, deeper = d + 1 := ⟨deeper - 1, by omega⟩
    have callees := fun callee => ih (Nat.le_of_succ_le_succ more) callee
    cases template with
    | empty => exact .inr rfl
    | chunks rest => exact .inr rfl
    | escaped w =>
      rcases callees w.inner with cramped | same
      · exact .inl (Escaped.turn_cramped cramped)
      · exact .inr (congrArg (w.turn σ) same)
    | program frame slot =>
      have relayed (first : Step) (rest : List Step) (callee : Instance) :
          (frame.relay first rest (callee.turn ctx σ depth)).Cramped ∨
            frame.relay first rest (callee.turn ctx σ deeper) = frame.relay first rest (callee.turn ctx σ depth) := by
        rcases callees callee with cramped | same
        · exact .inl (Activation.relay_cramped cramped)
        · exact .inr (congrArg (frame.relay first rest) same)
      rw [turn, turn]
      cases frame.todo with
      | nil => exact .inr rfl
      | cons first rest =>
        cases running : first.inFlight slot with
        | some callee =>
          rw [Activation.turn_inFlight ctx σ _ frame rest running, Activation.turn_inFlight ctx σ _ frame rest running]
          exact relayed first rest callee
        | none =>
          simp only [Activation.turn, running]
          cases first.instruction.effect ctx σ frame.params frame.injected with
          | error obstacle => cases obstacle <;> exact .inr rfl
          | ok effect =>
            cases effect with
            | write text => exact .inr rfl
            | writeMessage text => exact .inr rfl
            | silent => exact .inr rfl
            | enter callee => exact relayed first rest callee

/-- Where a template does different things with different room, it lacks the lesser one. -/
theorem cramped_of_ne {template : Instance} (differ : template.turn ctx σ depth ≠ template.turn ctx σ room) :
    depth < room ∧ (template.turn ctx σ depth).Cramped ∨ room < depth ∧ (template.turn ctx σ room).Cramped := by
  rcases Nat.lt_trichotomy depth room with less | rfl | more
  · exact .inl ⟨less, (template.turn_deeper (Nat.le_of_lt less)).resolve_right differ.symm⟩
  · exact absurd rfl differ
  · exact .inr ⟨more, (template.turn_deeper (Nat.le_of_lt more)).resolve_right differ⟩

/-- The templates that a template may run in its place: the callee in flight, what an instruction that is left may start
while further cells are completed, and the template whose output passes through directives. -/
inductive Calls (ctx : RenderContext) (base : CellStore) : Instance → Instance → Prop
  | inFlight {frame callee} : Calls ctx base (.program frame (some callee)) callee
  | starts {frame slot step σ callee} (left : step ∈ frame.todo) (order : base.Precedes σ)
      (entered : step.instruction.effect ctx σ frame.params frame.injected = .ok (.enter callee)) :
      Calls ctx base (.program frame slot) callee
  | behind {w} : Calls ctx base (.escaped w) w.inner

/-- No chain of calls from a template goes on for ever: its tree of calls is finite. -/
def CallsEnd (ctx : RenderContext) (base : CellStore) (template : Instance) : Prop :=
  Acc (fun callee caller => Calls ctx base caller callee) template

/-- The tree of calls of a template is less than `depth` calls high. -/
def Fits (ctx : RenderContext) (base : CellStore) : (depth : Nat) → Instance → Prop
  | 0, _ => False
  | depth + 1, template => ∀ callee, template.Calls ctx base callee → callee.Fits ctx base depth

variable {template : Instance}

theorem Fits.mono (fits : template.Fits ctx base depth) (more : depth ≤ deeper) : template.Fits ctx base deeper := by
  induction depth generalizing deeper template with
  | zero => exact fits.elim
  | succ depth ih =>
    obtain ⟨deeper, rfl⟩ : ∃ d, deeper = d + 1 := ⟨deeper - 1, by omega⟩
    exact fun callee calls => ih (fits callee calls) (Nat.le_of_succ_le_succ more)

theorem Fits.withRoom (fits : template.Fits ctx base depth) : template.Fits (ctx.withRoom room) base depth := by
  induction depth generalizing template with
  | zero => exact fits
  | succ depth ih =>
    intro callee calls
    refine ih (fits callee ?_)
    cases calls with
    | inFlight => exact .inFlight
    | starts left order entered => exact .starts left order (Instruction.effect_withRoom _ ▸ entered)
    | behind => exact .behind

/-- A program fits with fewer instructions left and with any callee that fits. -/
theorem Fits.program {frame : Activation} {slot slot' : Option Instance} {todo : List Step}
    (fits : Fits ctx base (depth + 1) (.program frame slot)) (left : ∀ step ∈ todo, step ∈ frame.todo)
    (callee : ∀ callee ∈ slot', callee.Fits ctx base depth) :
    Fits ctx base (depth + 1) (.program { frame with todo := todo } slot') := by
  intro other calls
  cases calls with
  | inFlight => exact callee other rfl
  | starts among order entered => exact fits other (.starts (left _ among) order entered)

end Instance

/-- A turn does not lack room, and whatever it leaves behind fits. -/
def Turn.Fits (ctx : RenderContext) (base : CellStore) (depth : Nat) : Turn → Prop
  | .await _ stopped => stopped.Fits ctx base depth
  | .fail e stopped => e.kind ≠ .callsTooDeep ∧ stopped.Fits ctx base depth
  | .act output _ next => (∀ given ∈ output, given.retry.Fits ctx base depth) ∧ next.Fits ctx base depth

namespace Activation

theorem complete_fits {frame : Activation} {rest : List Step} {slot : Option Instance} {output : Option Output}
    (retries : ∀ given ∈ output, given.retry.Fits ctx base depth)
    (next : Instance.Fits ctx base depth (.program { frame with todo := rest } slot)) :
    (frame.complete rest slot output).Fits ctx base depth := ⟨retries, next⟩

theorem relay_fits {frame : Activation} {first : Step} {rest : List Step} {slot : Option Instance}
    (fits : Instance.Fits ctx base (depth + 1) (.program { frame with todo := first :: rest } slot)) {turn : Turn}
    (inside : turn.Fits ctx base depth) : (frame.relay first rest turn).Fits ctx base (depth + 1) := by
  have around {callee : Instance} (room : callee.Fits ctx base depth) :
      Instance.Fits ctx base (depth + 1) (.program { frame with todo := first :: rest } (some callee)) :=
    fits.program (fun _ left => left) (by rintro _ ⟨⟩; exact room)
  cases turn with
  | await c callee => exact around inside
  | fail e callee => exact ⟨inside.1, around inside.2⟩
  | act output pace next =>
    have relayed : ∀ given ∈ output.map (frame.relayOutput first rest), given.retry.Fits ctx base (depth + 1) := by
      intro given member
      obtain ⟨inner, found, rfl⟩ := Option.map_eq_some_iff.mp member
      exact around (inside.1 inner found)
    cases pace with
    | finished => exact complete_fits relayed (fits.program (fun _ => List.mem_cons_of_mem first) (by simp))
    | asking | onward | resting => exact ⟨relayed, around inside.2⟩

theorem turn_fits (order : base.Precedes σ)
    (callees : ∀ callee : Instance, callee.Fits ctx base depth → (callee.turn ctx σ depth).Fits ctx base depth)
    {frame : Activation} {steps : List Step} {slot : Option Instance}
    (fits : Instance.Fits ctx base (depth + 1) (.program { frame with todo := steps } slot)) :
    (frame.turn ctx σ (Instance.turn ctx σ depth) steps slot).Fits ctx base (depth + 1) := by
  cases steps with
  | nil => exact ⟨by simp, fits⟩
  | cons first rest =>
    cases running : first.inFlight slot with
    | some callee =>
      obtain ⟨-, rfl⟩ := Step.inFlight_eq_some.mp running
      rw [turn_inFlight ctx σ _ frame rest running]
      exact relay_fits fits (callees callee (fits callee .inFlight))
    | none =>
      have further : Instance.Fits ctx base (depth + 1) (.program { frame with todo := rest } slot) := by
        refine fits.program (fun _ => List.mem_cons_of_mem first) ?_
        rintro callee ⟨⟩
        exact fits callee .inFlight
      simp only [turn, running]
      cases work : first.instruction.effect ctx σ frame.params frame.injected with
      | error obstacle =>
        cases obstacle with
        | awaits c => exact fits
        | fails e => exact ⟨(Instruction.raises_of_effect work).kind_ne, fits⟩
      | ok effect =>
        cases effect with
        | silent => exact complete_fits (by simp) further
        | enter callee =>
          exact relay_fits fits (callees callee (fits callee (.starts List.mem_cons_self order work)))
        | write text | writeMessage text =>
          refine complete_fits ?_ further
          rintro _ ⟨⟩
          exact fits

end Activation

theorem Escaped.turn_fits {w : Escaped Instance} {turn : Turn} (inside : turn.Fits ctx base depth) :
    (w.turn σ turn).Fits ctx base (depth + 1) := by
  have around {inner : Instance} {directives : List PrintDirective} {kind : Option ContentKind} {buffer : OutputBuffer}
      (fits : inner.Fits ctx base depth) :
      Instance.Fits ctx base (depth + 1) (.escaped ⟨inner, directives, kind, buffer⟩) := by
    intro callee calls
    cases calls
    exact fits
  cases turn with
  | await c inner => exact around inside
  | fail e inner => exact ⟨inside.1, around inside.2⟩
  | act output pace next =>
    cases pace with
    | asking | onward | resting => exact ⟨by simp, around inside.2⟩
    | finished =>
      simp only [turn, deliver]
      split
      next refuses =>
        refine ⟨?_, around inside.2⟩
        obtain ⟨directive, -, value, failed⟩ := PrintDirective.applyAll_eq_error (exceptMap_eq_error.mp refuses)
        exact directive.ignoresRoom failed
      · refine ⟨?_, around inside.2⟩
        rintro _ ⟨⟩
        exact around inside.2

namespace Instance

variable {template : Instance}

/-- A template that fits does not lack room, and goes on to fit. -/
theorem turn_fits (order : base.Precedes σ) (fits : template.Fits ctx base depth) :
    (template.turn ctx σ depth).Fits ctx base depth := by
  induction depth generalizing template with
  | zero => exact fits.elim
  | succ depth ih =>
    cases template with
    | empty => exact ⟨by simp, fits⟩
    | chunks rest =>
      have any (rest : List String) : Instance.Fits ctx base (depth + 1) (.chunks rest) := by
        intro callee calls
        cases calls
      cases rest with
      | nil => exact ⟨by simp, any []⟩
      | cons text rest =>
        refine ⟨?_, any rest⟩
        rintro _ ⟨⟩
        exact any _
    | program frame slot => exact Activation.turn_fits order (fun _ inside => ih inside) fits
    | escaped w => exact Escaped.turn_fits (ih (fits w.inner .behind))

/-- A step of a template that fits does not lack room, and leaves a template that fits. -/
theorem Course.fits (order : base.Precedes σ) {S : Type} [Sink S] {s : S} {result : StepResult Instance S}
    (course : template.Course ctx σ depth s result) (fits : template.Fits ctx base depth) :
    result.outcome.mapError RenderError.kind ≠ .error .callsTooDeep ∧ result.template.Fits ctx base depth := by
  have turned {template : Instance} {turn : Turn} (same : template.turn ctx σ depth = turn)
      (fits : template.Fits ctx base depth) : turn.Fits ctx base depth := same ▸ turn_fits order fits
  induction course with
  | await turn => exact ⟨nofun, turned turn fits⟩
  | fail turn => exact ⟨fun lacks => (turned turn fits).1 (Except.error.inj lacks), (turned turn fits).2⟩
  | @refused template output _ _ _ _ e turn append =>
    have traced := turn_traced ctx σ depth template
    rw [turn] at traced
    refine ⟨fun lacks => ?_, (turned turn fits).1 output rfl⟩
    have cause := output.retry.refusal_cause e
    rw [← traced.1 output rfl, Except.error.inj lacks] at cause
    cases cause
  | finished turn | rested turn | full turn => exact ⟨nofun, (turned turn fits).2⟩
  | further turn _ _ _ ih | onward turn _ _ ih => exact ih (turned turn fits).2

end Instance

namespace RenderState

variable {S : Type} [Sink S]

/-- A step that fails because a call finds no room. -/
def Cramped (ctx : RenderContext) (x : RenderState S) : Prop :=
  (x.result ctx).outcome.mapError RenderError.kind = .error .callsTooDeep

/-- No step of a run lacks room if the calls of its template nest less deeply than the environment allows. -/
theorem run_uncramped {x : RenderState S} (fits : x.template.Fits ctx x.store ctx.callDepth) {rounds : List (Round S)} :
    ∀ y ∈ x.run ctx rounds, ¬ y.Cramped ctx := by
  intro y member
  have kept : x.store.Precedes y.store ∧ y.template.Fits ctx x.store ctx.callDepth := by
    refine run_induction (p := fun z => x.store.Precedes z.store ∧ z.template.Fits ctx x.store ctx.callDepth) ?_ ?_
      member ⟨.refl _, fits⟩
    · rintro z round - ⟨order, fits⟩
      exact ⟨order.trans (z.store.precedes_applyAll round.completions), fits⟩
    · rintro z ⟨order, fits⟩
      exact ⟨order, ((Instance.course_step ctx z.store ctx.callDepth z.template z.sink).fits order fits).2⟩
  exact ((Instance.course_step ctx y.store ctx.callDepth y.template y.sink).fits kept.1 kept.2).1

end RenderState

/-- The templates that an instruction can call. -/
def Instruction.callees (ctx : RenderContext) : Instruction → List TemplateEntry
  | .call name _ => (ctx.registry.lookup name).toOption.toList
  | .delegateCall target => ctx.delegates.table.implementations target.callee
  | _ => []

theorem Instruction.MayCall.mem_callees {instruction : Instruction} {entry : TemplateEntry}
    (calls : instruction.MayCall ctx entry) : entry ∈ instruction.callees ctx := by
  cases calls with
  | call found => simp [callees, found, Except.toOption]
  | delegate selected => exact DelegateView.mem_implementations_of_select? selected

/-- A callee as a delegate call hands it on: behind the directives of the call, if there are any. -/
def ResolvedCallee.startable (ctx : RenderContext) (escapers : List String) (resolved : ResolvedCallee) :
    List Instance :=
  if escapers.isEmpty then [resolved.template]
  else (escapers.mapM ctx.directives.lookup).toOption.toList.map fun directives =>
    resolved.template.withEscapers directives resolved.kind

/-- The templates that an instruction can start, whatever the variant of a delegate call turns out to be. -/
def Instruction.startable (ctx : RenderContext) (params injected : Record) (instruction : Instruction) :
    List Instance :=
  match instruction with
  | .call name data => (ctx.create name (data.record params injected) injected).toOption.toList
  | .delegateCall target =>
    let resolved : List ResolvedCallee := (instruction.callees ctx).map fun entry =>
      ⟨entry.start (target.data.record params injected) injected, entry.metadata.kind, entry.name⟩
    (⟨.empty, some .text, ""⟩ :: resolved).flatMap (ResolvedCallee.startable ctx target.escapers)
  | _ => []

theorem Instruction.mem_startable {instruction : Instruction} {callee : Instance}
    (entered : instruction.effect ctx σ params injected = .ok (.enter callee)) :
    callee ∈ instruction.startable ctx params injected := by
  cases instruction with
  | text | css | xid | print | printCall | message => exact absurd entered (effect_ne_enter rfl callee)
  | call name data =>
    obtain ⟨entry, found, rfl⟩ := call_enters entered
    simp [startable, RenderContext.create, found, Except.map, Except.toOption]
  | delegateCall target =>
    obtain ⟨variant, resolved, -, selected, wrapped⟩ := DelegateCall.start_eq_ok (delegateCall_enters entered)
    refine List.mem_flatMap.mpr ⟨resolved, ?_, ?_⟩
    · rcases RenderContext.selectDelegate_eq_ok selected with ⟨entry, chosen, rfl⟩ | ⟨-, rfl⟩
      · exact List.mem_cons_of_mem _ (List.mem_map_of_mem (MayCall.delegate chosen).mem_callees)
      · exact List.mem_cons_self
    · rcases wrapped with ⟨plain, rfl⟩ | ⟨directives, wrapped, found, rfl⟩
      · simp [ResolvedCallee.startable, plain]
      · simp [ResolvedCallee.startable, wrapped, found, Except.toOption]

namespace Instance

/-- The templates that a template can run in its place. There are finitely many of them. -/
def callees (ctx : RenderContext) : Instance → List Instance
  | .program frame slot =>
    slot.toList ++ frame.todo.flatMap fun step => step.instruction.startable ctx frame.params frame.injected
  | .escaped w => [w.inner]
  | _ => []

variable {template : Instance}

theorem Calls.mem_callees {callee : Instance} (calls : template.Calls ctx base callee) :
    callee ∈ template.callees ctx := by
  cases calls with
  | inFlight => exact List.mem_append_left _ (List.mem_singleton_self callee)
  | starts left order entered =>
    exact List.mem_append_right _ (List.mem_flatMap.mpr ⟨_, left, Instruction.mem_startable entered⟩)
  | behind => exact List.mem_singleton_self _

/-- A finite tree of calls has a height: every template of it has finitely many callees, and the highest of them
counts. -/
theorem CallsEnd.exists_fits (finite : template.CallsEnd ctx base) : ∃ depth, template.Fits ctx base depth := by
  induction finite with
  | intro template _ ih =>
    have all (callees : List Instance) :
        ∃ depth, ∀ callee ∈ callees, template.Calls ctx base callee → callee.Fits ctx base depth := by
      induction callees with
      | nil => exact ⟨0, by simp⟩
      | cons callee callees others =>
        obtain ⟨depth, fits⟩ := others
        by_cases calls : template.Calls ctx base callee
        · obtain ⟨height, here⟩ := ih callee calls
          refine ⟨max height depth, List.forall_mem_cons.mpr ⟨fun _ => here.mono (Nat.le_max_left ..), ?_⟩⟩
          exact fun other member calls => (fits other member calls).mono (Nat.le_max_right ..)
        · exact ⟨depth, List.forall_mem_cons.mpr ⟨fun calls' => absurd calls' calls, fits⟩⟩
    obtain ⟨depth, fits⟩ := all (template.callees ctx)
    exact ⟨depth + 1, fun callee calls => fits callee calls.mem_callees calls⟩

theorem Fits.callsEnd (fits : template.Fits ctx base depth) : template.CallsEnd ctx base := by
  induction depth generalizing template with
  | zero => exact fits.elim
  | succ depth ih => exact .intro template fun callee calls => ih (fits callee calls)

/-- The height of a tree of calls, looked for to some depth. -/
def nestsWithin (ctx : RenderContext) : (depth : Nat) → Instance → Bool
  | 0, _ => false
  | depth + 1, template => (template.callees ctx).all fun callee => callee.nestsWithin ctx depth

theorem fits_of_nestsWithin (within : template.nestsWithin ctx depth = true) : template.Fits ctx base depth := by
  induction depth generalizing template with
  | zero => cases within
  | succ depth ih => exact fun callee calls => ih (List.all_eq_true.mp within callee calls.mem_callees)

end Instance

/-- Enough room for all that a template calls. -/
def RenderContext.EnoughRoom (ctx : RenderContext) (σ : CellStore) (template : Instance) (enough : Nat) : Prop :=
  ∀ room, enough ≤ room → ∀ {S : Type} [Sink S] (s : S) (rounds : List (Round S)),
    ∀ x ∈ RenderState.run (ctx.withRoom room) ⟨σ, template, s⟩ rounds, ¬ x.Cramped (ctx.withRoom room)

/-- A finite tree of calls fits into some room for calls, whatever the sink and the schedule, and it does not lack room
there. -/
theorem Instance.CallsEnd.exists_room {template : Instance} (finite : template.CallsEnd ctx σ) :
    ∃ enough, ctx.EnoughRoom σ template enough := by
  obtain ⟨enough, fits⟩ := finite.exists_fits
  refine ⟨enough, fun room more S _ s rounds => ?_⟩
  have fits : template.Fits (ctx.withRoom room) σ (ctx.withRoom room).callDepth := (fits.mono more).withRoom
  exact RenderState.run_uncramped (x := ⟨σ, template, s⟩) fits

end TemplateEngine
