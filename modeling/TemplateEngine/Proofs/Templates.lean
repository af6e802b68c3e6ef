import TemplateEngine.Proofs.Frames

namespace TemplateEngine

/-- The data that an instruction passes on to a callee. -/
def Instruction.passes : Instruction → Option CallData
  | .call _ data => some data
  | .delegateCall target => some target.data
  | _ => none

namespace RenderContext

/-- A call may go to a template. -/
def Offers (ctx : RenderContext) (entry : TemplateEntry) : Prop :=
  (∃ name, ctx.registry.lookup name = .ok entry) ∨
    ∃ name variant, ctx.delegates.select? name variant = some entry

def OnlyPrograms (ctx : RenderContext) : Prop :=
  ∀ entry, ctx.Offers entry → ∃ p : Program, entry.body = .program p

end RenderContext

/-- The templates that an instruction may start: the one that it calls by name, or those for all variants of its
delegate. -/
inductive Instruction.MayCall (ctx : RenderContext) : Instruction → TemplateEntry → Prop
  | call {name data entry} (found : ctx.registry.lookup name = .ok entry) : MayCall ctx (.call name data) entry
  | delegate {target : DelegateCall} {variant entry}
      (selected : ctx.delegates.select? target.callee variant = some entry) : MayCall ctx (.delegateCall target) entry

theorem Instruction.MayCall.offers {ctx : RenderContext} {instruction : Instruction} {entry : TemplateEntry}
    (calls : instruction.MayCall ctx entry) : ctx.Offers entry := by
  cases calls with
  | call found => exact .inl ⟨_, found⟩
  | delegate selected => exact .inr ⟨_, _, selected⟩

variable {ctx : RenderContext} {σ : CellStore} {params injected : Record}

/-- Calls pass data on, and no other instruction does. -/
theorem Instruction.calls_iff {instruction : Instruction} : instruction.calls = true ↔ instruction.passes ≠ none := by
  cases instruction <;> simp [passes, calls]

theorem Instruction.effect_ne_enter {instruction : Instruction} (quiet : instruction.passes = none)
    (callee : Instance) : instruction.effect ctx σ params injected ≠ .ok (.enter callee) :=
  fun entered => calls_iff.mp (calls_of_enter entered) quiet

/-- A call does nothing but start a callee. -/
theorem Instruction.effect_eq_enter {instruction : Instruction} (calls : instruction.passes ≠ none) {effect : Effect}
    (worked : instruction.effect ctx σ params injected = .ok effect) : ∃ callee, effect = .enter callee := by
  cases instruction with
  | text | css | xid | print | printCall | message => exact absurd rfl calls
  | call name data =>
    obtain ⟨callee, -, same⟩ := exceptMap_eq_ok.mp ((mapError_eq_ok _).mp worked)
    exact ⟨callee, same.symm⟩
  | delegateCall target =>
    obtain ⟨callee, -, same⟩ := exceptMap_eq_ok.mp worked
    exact ⟨callee, same.symm⟩

/-- A basic call starts the template of its name. -/
theorem Instruction.call_enters {name : String} {data : CallData} {callee : Instance}
    (entered : (call name data).effect ctx σ params injected = .ok (.enter callee)) :
    ∃ entry, ctx.registry.lookup name = .ok entry ∧ callee = entry.start (data.record params injected) injected := by
  obtain ⟨started, created, same⟩ := exceptMap_eq_ok.mp ((mapError_eq_ok _).mp entered)
  obtain ⟨entry, found, rfl⟩ := exceptMap_eq_ok.mp created
  exact ⟨entry, found, (Effect.enter.inj same).symm⟩

theorem Instruction.delegateCall_enters {target : DelegateCall} {callee : Instance}
    (entered : (delegateCall target).effect ctx σ params injected = .ok (.enter callee)) :
    target.start ctx σ params injected = .ok callee := by
  obtain ⟨started, start, same⟩ := exceptMap_eq_ok.mp entered
  rw [start, Effect.enter.inj same]

/-- A delegate call goes to the implementation that is chosen, or where there is none to the empty stand-in. -/
theorem RenderContext.selectDelegate_eq_ok {name variant : String} {allowEmpty : Bool} {resolved : ResolvedCallee}
    (selected : ctx.selectDelegate name variant allowEmpty params injected = .ok resolved) :
    (∃ entry, ctx.delegates.select? name variant = some entry ∧
        resolved = ⟨entry.start params injected, entry.metadata.kind, entry.name⟩) ∨
      ctx.delegates.select? name variant = none ∧ resolved = ⟨.empty, some .text, ""⟩ := by
  rw [selectDelegate] at selected
  split at selected
  next entry chosen => exact .inl ⟨entry, chosen, (Except.ok.inj selected).symm⟩
  next nothing =>
    split at selected
    · exact .inr ⟨nothing, (Except.ok.inj selected).symm⟩
    · cases selected

/-- A delegate call starts the template that its variant selects, behind the directives that it looks up if it asks
for any. -/
theorem DelegateCall.start_eq_ok {target : DelegateCall} {callee : Instance}
    (started : target.start ctx σ params injected = .ok callee) :
    ∃ variant resolved, target.variant.read σ params injected = .ok variant ∧
      ctx.selectDelegate target.callee (variant.toVariant σ) target.allowEmpty (target.data.record params injected)
        injected = .ok resolved ∧
      (target.escapers = [] ∧ callee = resolved.template ∨
        ∃ directives, target.escapers ≠ [] ∧ target.escapers.mapM ctx.directives.lookup = .ok directives ∧
          callee = resolved.template.withEscapers directives resolved.kind) := by
  rw [start] at started
  obtain ⟨variant, read, started⟩ := exceptBind_eq_ok.mp started
  obtain ⟨resolved, selected, started⟩ := exceptBind_eq_ok.mp started
  refine ⟨variant, resolved, read, (mapError_eq_ok _).mp selected, ?_⟩
  split at started
  next plain => exact .inl ⟨List.isEmpty_iff.mp plain, (Except.ok.inj started).symm⟩
  next wrapped =>
    obtain ⟨directives, found, started⟩ := exceptBind_eq_ok.mp started
    exact .inr ⟨directives, by simpa using wrapped, (mapError_eq_ok _).mp found, (Except.ok.inj started).symm⟩

/-- A callee is a template on offer, started with the data of the call, or the empty stand-in for a delegate;
the output of a delegate may pass through directives. -/
theorem Instruction.effect_enter {instruction : Instruction} {callee : Instance}
    (entered : instruction.effect ctx σ params injected = .ok (.enter callee)) :
    ∃ inner : Instance,
      (inner = .empty ∨ ∃ entry data, instruction.MayCall ctx entry ∧ data ∈ instruction.passes ∧
        inner = entry.start (data.record params injected) injected) ∧
      (callee = inner ∨ ∃ directives kind, callee = inner.withEscapers directives kind ∧
        ∀ directive ∈ directives, ∃ name, ctx.directives.lookup name = .ok directive) := by
  cases instruction with
  | text | css | xid | print | printCall | message => exact absurd entered (effect_ne_enter rfl callee)
  | call name data =>
    obtain ⟨entry, found, rfl⟩ := call_enters entered
    exact ⟨_, .inr ⟨entry, data, .call found, rfl, rfl⟩, .inl rfl⟩
  | delegateCall target =>
    obtain ⟨variant, resolved, -, selected, wrapped⟩ := DelegateCall.start_eq_ok (delegateCall_enters entered)
    refine ⟨resolved.template, ?_, ?_⟩
    · rcases RenderContext.selectDelegate_eq_ok selected with ⟨entry, chosen, rfl⟩ | ⟨-, rfl⟩
      · exact .inr ⟨entry, target.data, .delegate chosen, rfl, rfl⟩
      · exact .inl rfl
    · rcases wrapped with ⟨-, plain⟩ | ⟨directives, -, found, rfl⟩
      · exact .inl plain
      · refine .inr ⟨directives, resolved.kind, rfl, fun directive member => ?_⟩
        obtain ⟨name, -, same⟩ := exists_of_mapM_eq_ok found directive member
        exact ⟨name, same⟩

/-- A requirement is hereditary if the templates on offer meet it, as an instruction starts them, and the
directives do. -/
theorem Hereditary.of_start {p : Parts}
    (rest : ∀ {frame : Activation} {first : Step} {rest : List Step},
      p.program { frame with todo := first :: rest } → p.program { frame with todo := rest })
    (start : ∀ {frame : Activation} {first : Step} {rest : List Step} {entry : TemplateEntry} {data : CallData},
      p.program { frame with todo := first :: rest } → first.instruction.MayCall ctx entry →
        data ∈ first.instruction.passes →
        (entry.start (data.record frame.params frame.injected) frame.injected).MadeOf p)
    (directives : ∀ name directive, ctx.directives.lookup name = .ok directive → p.directive directive) :
    Hereditary ctx σ p where
  rest := rest
  enter := by
    intro frame first rest callee holds entered
    obtain ⟨inner, origin, wrapped⟩ := Instruction.effect_enter entered
    have made : inner.MadeOf p := by
      rcases origin with rfl | ⟨entry, data, calls, passed, rfl⟩
      · exact .empty
      · exact start holds calls passed
    rcases wrapped with rfl | ⟨known, kind, rfl, found⟩
    · exact made
    · refine .escaped (fun directive member => ?_) made
      obtain ⟨name, found⟩ := found directive member
      exact directives name directive found

theorem RenderContext.OnlyPrograms.hereditary (programs : ctx.OnlyPrograms) :
    Hereditary ctx σ .any := by
  refine Hereditary.of_start (fun _ => trivial) ?_ (fun _ _ _ => trivial)
  intro frame first rest entry data _ calls _
  obtain ⟨p, body⟩ := programs entry calls.offers
  simp only [TemplateEntry.start, body]
  exact .program trivial

namespace RenderContext

/-- An environment with some programs as its templates and nothing else. -/
def ofPrograms (programs : List Program) (callDepth : Nat) : RenderContext where
  registry := ⟨SortedMap.ofList (programs.map fun p => (p.name, ⟨p.name, default, .program p⟩)), .empty⟩
  delegates := ⟨.empty, SortedMap.empty, rfl⟩
  functions := SortedMap.empty
  directives := DirectiveTable.builtin
  converter := .json
  cssNames := none
  xidNames := none
  bundle := .empty
  defaultBundle := .empty
  callDepth := callDepth

theorem offers_ofPrograms {programs : List Program} {callDepth : Nat} {entry : TemplateEntry}
    (offered : (ofPrograms programs callDepth).Offers entry) : ∃ p ∈ programs, entry.body = .program p := by
  rcases offered with ⟨name, found⟩ | ⟨name, variant, found⟩
  · simp only [Registry.lookup, ofPrograms] at found
    cases listed : (SortedMap.ofList (programs.map fun p =>
        (p.name, (⟨p.name, default, .program p⟩ : TemplateEntry)))).get? name with
    | none => simp [listed] at found
    | some other =>
      simp only [listed, Option.elim, Except.ok.injEq] at found
      subst found
      obtain ⟨p, member, same⟩ := List.mem_map.mp (SortedMap.mem_of_get?_ofList listed)
      exact ⟨p, member, by rw [← (Prod.mk.inj same).2]⟩
  · have nothing : (ofPrograms programs callDepth).delegates.select? name variant = none := by
      simp only [ofPrograms, DelegateView.select?, DelegateTable.group?, DelegateTable.variants,
        DelegateTable.empty, SortedMap.get?, SortedMap.empty, lookupKey]
      split <;> rfl
    rw [nothing] at found
    cases found

theorem onlyPrograms_ofPrograms (programs : List Program) (callDepth : Nat) :
    (ofPrograms programs callDepth).OnlyPrograms := by
  intro entry offered
  obtain ⟨p, -, body⟩ := offers_ofPrograms offered
  exact ⟨p, body⟩

end RenderContext

end TemplateEngine
