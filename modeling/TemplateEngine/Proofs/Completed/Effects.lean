import TemplateEngine.Proofs.Completed.Observations
import TemplateEngine.Proofs.Templates

namespace TemplateEngine

variable {base σ σ' : CellStore} {params injected params' injected' : Record}

/-- The same delegate call, with literals in which completed cells are replaced. -/
structure DelegateCall.Unfolds (base : CellStore) (call call' : DelegateCall) : Prop where
  callee : call'.callee = call.callee
  variant : call.variant.Corresponds (Slot.Unfolds base) call'.variant
  allowEmpty : call'.allowEmpty = call.allowEmpty
  data : call.data.Corresponds (Slot.Unfolds base) call'.data
  escapers : call'.escapers = call.escapers

/-- The same instruction, with literals in which completed cells are replaced. -/
inductive Instruction.Unfolds (base : CellStore) : Instruction → Instruction → Prop
  | text (s : String) : Unfolds base (.text s) (.text s)
  | css (name : String) : Unfolds base (.css name) (.css name)
  | xid (name : String) : Unfolds base (.xid name) (.xid name)
  | print {ref ref'} (value : ref.Corresponds (Slot.Unfolds base) ref') (directives : List String) :
      Unfolds base (.print ref directives) (.print ref' directives)
  | printCall (function : String) {args args'}
      (each : List.Forall₂ (ValueRef.Corresponds (Slot.Unfolds base)) args args') (directives : List String) :
      Unfolds base (.printCall function args directives) (.printCall function args' directives)
  | call (callee : String) {data data'} (passed : data.Corresponds (Slot.Unfolds base) data') :
      Unfolds base (.call callee data) (.call callee data')
  | delegateCall {call call' : DelegateCall} (calls : call.Unfolds base call') :
      Unfolds base (.delegateCall call) (.delegateCall call')
  | message (id : MessageId) (fallback : Option Message) {values values'}
      (each : ValueRef.NamedCorrespond (Slot.Unfolds base) values values') :
      Unfolds base (.message id fallback values) (.message id fallback values')

structure Step.Unfolds (base : CellStore) (step step' : Step) : Prop where
  instruction : step.instruction.Unfolds base step'.instruction
  position : step'.position = step.position

/-- The same program, with literals in which completed cells are replaced. -/
structure TemplateEntry.Unfolds (base : CellStore) (entry entry' : TemplateEntry) : Prop where
  name : entry'.name = entry.name
  metadata : entry'.metadata = entry.metadata
  programs : ∃ p p' : Program, entry.body = .program p ∧ entry'.body = .program p' ∧ p'.name = p.name ∧
    List.Forall₂ (Step.Unfolds base) p.steps p'.steps

/-- Environments that are the same but for literals in their templates, which are all programs. -/
structure RenderContext.Unfolds (base : CellStore) (ctx ctx' : RenderContext) : Prop where
  lookup : ∀ name, SameOutcome (TemplateEntry.Unfolds base) (ctx.registry.lookup name) (ctx'.registry.lookup name)
  select : ∀ name variant,
    Option.Rel (TemplateEntry.Unfolds base) (ctx.delegates.select? name variant) (ctx'.delegates.select? name variant)
  functions : ctx'.functions = ctx.functions
  directives : ctx'.directives = ctx.directives
  cssNames : ctx'.cssNames = ctx.cssNames
  xidNames : ctx'.xidNames = ctx.xidNames
  bundle : ctx'.bundle = ctx.bundle
  defaultBundle : ctx'.defaultBundle = ctx.defaultBundle
  callDepth : ctx'.callDepth = ctx.callDepth

structure Activation.Unfolds (base : CellStore) (frame frame' : Activation) : Prop where
  name : frame'.name = frame.name
  todo : List.Forall₂ (Step.Unfolds base) frame.todo frame'.todo
  params : Record.Corresponds (Slot.Unfolds base) frame.params frame'.params
  injected : Record.Corresponds (Slot.Unfolds base) frame.injected frame'.injected

/-- The same template in the course of a render, with slots in which completed cells are replaced. -/
inductive Instance.Unfolds (base : CellStore) : Instance → Instance → Prop
  | empty : Unfolds base .empty .empty
  | program {frame frame'} (frames : Activation.Unfolds base frame frame') :
      Unfolds base (.program frame none) (.program frame' none)
  | calling {frame frame' callee callee'} (frames : Activation.Unfolds base frame frame')
      (inside : Unfolds base callee callee') :
      Unfolds base (.program frame (some callee)) (.program frame' (some callee'))
  | escaped {inner inner'} {directives : List PrintDirective}
      (observing : ∀ directive ∈ directives, directive.Observes base) (kind : Option ContentKind)
      (buffer : OutputBuffer) (inside : Unfolds base inner inner') :
      Unfolds base (.escaped ⟨inner, directives, kind, buffer⟩) (.escaped ⟨inner', directives, kind, buffer⟩)

inductive Effect.Unfolds (base : CellStore) : Effect → Effect → Prop
  | write (text : String) : Unfolds base (.write text) (.write text)
  | writeMessage (text : String) : Unfolds base (.writeMessage text) (.writeMessage text)
  | silent : Unfolds base .silent .silent
  | enter {callee callee'} (callees : callee.Unfolds base callee') : Unfolds base (.enter callee) (.enter callee')

theorem Instruction.Unfolds.same (instruction : Instruction) : instruction.Unfolds base instruction := by
  have refs (ref : ValueRef) : ref.Corresponds (Slot.Unfolds base) ref := .same .same ref
  have values (values : List (String × ValueRef)) : ValueRef.NamedCorrespond (Slot.Unfolds base) values values :=
    List.forall₂_same.mpr fun entry _ => ⟨rfl, refs entry.2⟩
  have data (data : CallData) : data.Corresponds (Slot.Unfolds base) data := by
    cases data with
    | none => exact .none
    | all => exact .all
    | params given => exact .params (values given)
  cases instruction with
  | text s => exact .text s
  | css name => exact .css name
  | xid name => exact .xid name
  | print ref directives => exact .print (refs ref) directives
  | printCall function args directives =>
    exact .printCall function (List.forall₂_same.mpr fun ref _ => refs ref) directives
  | call callee passed => exact .call callee (data passed)
  | delegateCall call => exact .delegateCall ⟨rfl, refs call.variant, rfl, data call.data, rfl⟩
  | message id fallback given => exact .message id fallback (values given)

theorem TemplateEntry.Unfolds.same {entry : TemplateEntry} {p : Program} (body : entry.body = .program p) :
    entry.Unfolds base entry :=
  ⟨rfl, rfl, p, p, body, body, rfl, List.forall₂_same.mpr fun step _ => ⟨.same step.instruction, rfl⟩⟩

variable {ctx ctx' : RenderContext}

theorem RenderContext.OnlyPrograms.unfolds (programs : ctx.OnlyPrograms) : ctx.Unfolds base ctx where
  lookup name := by
    cases found : ctx.registry.lookup name with
    | error e => exact .error e
    | ok entry =>
      obtain ⟨p, body⟩ := programs entry (.inl ⟨name, found⟩)
      exact .ok (.same body)
  select name variant := by
    cases selected : ctx.delegates.select? name variant with
    | none => exact .none
    | some entry =>
      obtain ⟨p, body⟩ := programs entry (.inr ⟨name, variant, selected⟩)
      exact .some (.same body)
  functions := rfl
  directives := rfl
  cssNames := rfl
  xidNames := rfl
  bundle := rfl
  defaultBundle := rfl
  callDepth := rfl

theorem TemplateEntry.Unfolds.start {entry entry' : TemplateEntry} (entries : entry.Unfolds base entry')
    (given : Record.Corresponds (Slot.Unfolds base) params params')
    (common : Record.Corresponds (Slot.Unfolds base) injected injected') :
    (entry.start params injected).Unfolds base (entry'.start params' injected') := by
  obtain ⟨p, p', body, body', name, steps⟩ := entries.programs
  simp only [TemplateEntry.start, body, body']
  exact .program ⟨name, steps, given, common⟩

/-- Directives make of what looks the same what looks the same. -/
theorem RenderContext.Unfolds.applyDirectives (contexts : ctx.Unfolds base ctx') (observes : ctx.Observes base)
    (stores : base.Matches σ σ') (names : List String) {v w : Value} (alike : v.LooksLike σ σ' w) :
    SameOutcome (Value.LooksLike σ σ') (ctx.applyDirectives σ names v) (ctx'.applyDirectives σ' names w) := by
  induction names generalizing v w with
  | nil => exact .ok alike
  | cons name names ih =>
    simp only [RenderContext.applyDirectives, List.foldlM_cons, contexts.directives]
    refine SameOutcome.bind (r := Value.LooksLike σ σ') ?_ fun v w alike => ?_
    · cases known : ctx.directives.lookup name with
      | error e => exact .error _
      | ok directive => exact .of_view (observes.directives name directive known σ σ' stores v w alike)
    · simpa only [RenderContext.applyDirectives, contexts.directives] using ih alike

/-- A function makes of arguments in which cells are replaced what looks the same. -/
theorem PluginFunction.Observes.call {function : PluginFunction} (observes : function.Observes base)
    (stores : base.Matches σ σ') {args args' : List Value} (each : List.Forall₂ (Value.Unfolds base) args args') :
    SameOutcome (Value.LooksLike σ σ') (function.call σ args) (function.call σ' args') := by
  refine .of_view (observes σ σ' stores args args' ?_)
  induction each with
  | nil => rfl
  | cons first _ ih => rw [List.map_cons, List.map_cons, ih, first.looksLike stores]

theorem readPlaceholders_unfolds (stores : base.Matches σ σ')
    (given : Record.Corresponds (Slot.Unfolds base) params params')
    (common : Record.Corresponds (Slot.Unfolds base) injected injected') {values values' : List (String × ValueRef)}
    (each : ValueRef.NamedCorrespond (Slot.Unfolds base) values values') :
    SameOutcome Eq (Instruction.readPlaceholders σ params injected values)
      (Instruction.readPlaceholders σ' params' injected' values') := by
  refine SameOutcome.map (r := List.Forall₂ Eq) (SameOutcome.mapM each fun entry entry' same => ?_) ?_
  · refine (ValueRef.read_unfolds same.2 stores.stores given common).map fun v w unfolds => ?_
    rw [same.1, unfolds.toPlaceholder stores]
  · intro entries entries' same
    rw [List.forall₂_eq_eq_eq] at same
    rw [same]

structure ResolvedCallee.Unfolds (base : CellStore) (resolved resolved' : ResolvedCallee) : Prop where
  template : resolved.template.Unfolds base resolved'.template
  kind : resolved'.kind = resolved.kind
  name : resolved'.name = resolved.name

theorem RenderContext.Unfolds.selectDelegate (contexts : ctx.Unfolds base ctx') (name variant : String)
    (allowEmpty : Bool) (given : Record.Corresponds (Slot.Unfolds base) params params')
    (common : Record.Corresponds (Slot.Unfolds base) injected injected') :
    SameOutcome (ResolvedCallee.Unfolds base) (ctx.selectDelegate name variant allowEmpty params injected)
      (ctx'.selectDelegate name variant allowEmpty params' injected') := by
  rw [RenderContext.selectDelegate, RenderContext.selectDelegate]
  have choice := contexts.select name variant
  generalize ctx.delegates.select? name variant = chosen, ctx'.delegates.select? name variant = chosen' at choice
  cases choice with
  | some entries =>
    exact .ok ⟨entries.start given common, congrArg TemplateMetadata.kind entries.metadata, entries.name⟩
  | none =>
    cases allowEmpty with
    | true => exact .ok ⟨.empty, rfl, rfl⟩
    | false => exact .error _

theorem DelegateCall.start_unfolds (contexts : ctx.Unfolds base ctx') (observes : ctx.Observes base)
    (stores : base.Matches σ σ') (given : Record.Corresponds (Slot.Unfolds base) params params')
    (common : Record.Corresponds (Slot.Unfolds base) injected injected') {call call' : DelegateCall}
    (calls : call.Unfolds base call') :
    SameOutcome (Instance.Unfolds base) (call.start ctx σ params injected) (call'.start ctx' σ' params' injected') := by
  obtain ⟨callee, variants, allowEmpty, passed, escapers⟩ := calls
  refine (ValueRef.read_unfolds variants stores.stores given common).bind fun v w values => ?_
  rw [callee, allowEmpty, values.toVariant stores]
  have selected := contexts.selectDelegate call.callee (v.toVariant σ) call.allowEmpty
    (passed.record (.same .null) given common) common
  refine (selected.mapError Obstacle.ofKind).bind fun resolved resolved' same => ?_
  rw [escapers]
  split
  · exact .ok same.template
  · rw [contexts.directives]
    cases known : call.escapers.mapM ctx.directives.lookup with
    | error e => exact .error _
    | ok directives =>
      refine .ok ?_
      rw [same.kind]
      refine .escaped (fun directive member => ?_) resolved.kind .empty same.template
      obtain ⟨name, -, found⟩ := exists_of_mapM_eq_ok known directive member
      exact observes.directives name directive found

/-- Instructions do the same when completed cells are replaced in what they read. -/
theorem Instruction.Unfolds.effect {instruction instruction' : Instruction}
    (instructions : instruction.Unfolds base instruction') (contexts : ctx.Unfolds base ctx')
    (observes : ctx.Observes base) (stores : base.Matches σ σ')
    (given : Record.Corresponds (Slot.Unfolds base) params params')
    (common : Record.Corresponds (Slot.Unfolds base) injected injected') :
    SameOutcome (Effect.Unfolds base) (instruction.effect ctx σ params injected)
      (instruction'.effect ctx' σ' params' injected') := by
  -- What is printed in the end is shown by its text.
  have shown {x x' : Except RenderError Value} (same : SameOutcome (Value.LooksLike σ σ') x x') :
      SameOutcome (Effect.Unfolds base) (x.mapError Obstacle.fails >>= fun value => pure (Effect.writeValue σ value))
        (x'.mapError Obstacle.fails >>= fun value => pure (Effect.writeValue σ' value)) := by
    refine (same.mapError Obstacle.fails).bind fun v w alike => .ok ?_
    rw [Effect.writeValue, Effect.writeValue, alike.text]
    exact .write _
  cases instructions with
  | text s => exact .ok (.write s)
  | css name =>
    simp only [Instruction.effect, RenderContext.renameCss, contexts.cssNames]
    exact .ok (.write _)
  | xid name =>
    simp only [Instruction.effect, RenderContext.renameXid, contexts.xidNames]
    exact .ok (.write _)
  | print value directives =>
    refine (ValueRef.read_unfolds value stores.stores given common).bind fun v w values => ?_
    exact shown (contexts.applyDirectives observes stores directives (values.looksLike stores))
  | printCall function each directives =>
    refine (SameOutcome.mapM each fun ref ref' refs =>
      ValueRef.read_unfolds refs stores.stores given common).bind fun vs ws values => ?_
    rw [contexts.functions]
    cases known : ctx.functions.lookup function with
    | error e => exact .error _
    | ok function =>
      have called := (observes.functions _ _ known).call stores values
      refine (called.mapError Obstacle.fails).bind fun v w alike => ?_
      exact shown (contexts.applyDirectives observes stores directives alike)
  | call callee passed =>
    refine SameOutcome.mapError (SameOutcome.map (r := Instance.Unfolds base) ?_ fun _ _ => .enter) Obstacle.ofKind
    exact (contexts.lookup callee).map fun entry entry' entries =>
      entries.start (passed.record (.same .null) given common) common
  | delegateCall calls =>
    exact (DelegateCall.start_unfolds contexts observes stores given common calls).map fun _ _ => .enter
  | message id fallback each =>
    refine (readPlaceholders_unfolds stores given common each).bind fun values values' same => ?_
    subst same
    have chosen : Instruction.chooseMessage ctx' id fallback = Instruction.chooseMessage ctx id fallback := by
      simp only [Instruction.chooseMessage, RenderContext.message?, contexts.bundle, contexts.defaultBundle]
    rw [chosen]
    refine ((SameOutcome.refl _).mapError Obstacle.ofKind).bind fun message message' same => ?_
    subst same
    refine ((SameOutcome.refl _).mapError _).bind fun text text' same => ?_
    subst same
    cases text with
    | none => exact .ok .silent
    | some text => exact .ok (.writeMessage text)

end TemplateEngine
