import TemplateEngine.Proofs.Reads

namespace TemplateEngine

/-- Where the errors of instructions come from. What the engine itself finds wrong has no frames yet; a directive or a
function may report anything but a lack of room for calls. -/
inductive RenderContext.Raises (ctx : RenderContext) (σ : CellStore) : RenderError → Prop
  | engine {kind} (roomy : kind ≠ .callsTooDeep) : Raises ctx σ (.ofKind kind)
  | directive {name directive value e} (found : ctx.directives.lookup name = .ok directive)
      (failed : directive.apply σ value [] = .error e) : Raises ctx σ e
  | function {name function values e} (found : ctx.functions.lookup name = .ok function)
      (failed : function.call σ values = .error e) : Raises ctx σ e

/-- A lack of room is never the fault of an instruction. -/
theorem RenderContext.Raises.kind_ne {ctx : RenderContext} {σ : CellStore} {e : RenderError} (raises : ctx.Raises σ e) :
    e.kind ≠ .callsTooDeep := by
  cases raises with
  | engine roomy => exact roomy
  | @directive _ directive _ _ _ failed => exact directive.ignoresRoom failed
  | @function _ function _ _ _ failed => exact function.ignoresRoom failed

/-- An instruction waits for a value, or fails with an error of one of these origins. -/
def Obstacle.Explained (ctx : RenderContext) (σ : CellStore) : Obstacle → Prop
  | .awaits _ => True
  | .fails e => ctx.Raises σ e

variable {ctx : RenderContext} {σ : CellStore} {params injected : Record}

theorem Obstacle.explained_ofKind {kind : ErrorKind} (roomy : kind ≠ .callsTooDeep) :
    (ofKind kind).Explained ctx σ := RenderContext.Raises.engine roomy

theorem ErrorKind.ofData_ne (e : DataError) : ErrorKind.ofData e ≠ .callsTooDeep := by
  cases e <;> exact nofun

theorem ValueRef.read_explained (ref : ValueRef) :
    FailsOnly (Obstacle.Explained ctx σ) (ref.read σ params injected) := by
  rw [read]
  split
  · rintro _ ⟨⟩
    trivial
  · exact .mapError fun e _ => Obstacle.explained_ofKind (ErrorKind.ofData_ne e)

/-- What is looked up in vain is reported as it is. -/
theorem optionElim_eq_error {ε α : Type} {found : Option α} {e e' : ε}
    (failed : found.elim (.error e) Except.ok = .error e') : e' = e := by
  cases found with
  | none => exact (Except.error.inj failed).symm
  | some entry => cases failed

theorem RenderContext.selectDelegate_explained {name variant : String} {allowEmpty : Bool} :
    FailsOnly (Obstacle.Explained ctx σ)
      ((ctx.selectDelegate name variant allowEmpty params injected).mapError .ofKind) := by
  refine .mapError fun e failed => ?_
  rw [selectDelegate] at failed
  split at failed
  · cases failed
  · split at failed
    · cases failed
    · cases failed
      exact Obstacle.explained_ofKind nofun

theorem RenderContext.applyDirectives_raises (names : List String) (value : Value) :
    FailsOnly (ctx.Raises σ) (ctx.applyDirectives σ names value) := by
  refine .foldlM (fun value name e failed => ?_) names value
  cases found : ctx.directives.lookup name with
  | error kind =>
    rw [found] at failed
    cases failed
    rw [optionElim_eq_error found]
    exact .engine nofun
  | ok directive =>
    rw [found] at failed
    exact .directive found failed

/-- The directives of a delegate call are looked up, and none of them is applied yet. -/
theorem DelegateCall.start_explained (target : DelegateCall) :
    FailsOnly (Obstacle.Explained ctx σ) (target.start ctx σ params injected) := by
  refine (ValueRef.read_explained target.variant).bind fun variant =>
    RenderContext.selectDelegate_explained.bind fun resolved => ?_
  by_cases plain : target.escapers.isEmpty = true
  · simp only [plain, if_true]
    exact .ok _
  · simp only [plain]
    refine FailsOnly.bind ?_ fun directives => .ok _
    refine .mapError fun e failed => ?_
    obtain ⟨_, name, _, _, _, missing⟩ := (mapM_eq_error _).mp failed
    rw [optionElim_eq_error missing]
    exact Obstacle.explained_ofKind nofun

namespace Instruction

theorem effect_explained (instruction : Instruction) :
    FailsOnly (Obstacle.Explained ctx σ) (instruction.effect ctx σ params injected) := by
  have directives (names : List String) (value : Value) :
      FailsOnly (Obstacle.Explained ctx σ) ((ctx.applyDirectives σ names value).mapError .fails) :=
    .mapError (ctx.applyDirectives_raises names value)
  cases instruction with
  | text | css | xid => exact .ok _
  | print ref names =>
    exact ref.read_explained.bind fun value => (directives names value).bind fun _ => .ok _
  | printCall name args names =>
    refine (FailsOnly.mapM (fun ref => ref.read_explained) args).bind fun values => ?_
    cases found : ctx.functions.lookup name with
    | error kind =>
      rintro _ ⟨⟩
      rw [optionElim_eq_error found]
      exact Obstacle.explained_ofKind nofun
    | ok function =>
      have called : FailsOnly (Obstacle.Explained ctx σ) ((function.call σ values).mapError .fails) :=
        .mapError fun e failed => RenderContext.Raises.function found failed
      exact called.bind fun value => (directives names value).bind fun _ => .ok _
  | call name data =>
    refine .mapError fun e failed => ?_
    cases found : ctx.registry.lookup name with
    | error kind =>
      rw [RenderContext.create, found] at failed
      cases failed
      rw [optionElim_eq_error found]
      exact Obstacle.explained_ofKind nofun
    | ok entry =>
      rw [RenderContext.create, found] at failed
      cases failed
  | delegateCall target => exact target.start_explained.map _
  | message id fallback values =>
    have read : FailsOnly (Obstacle.Explained ctx σ) (readPlaceholders σ params injected values) :=
      (FailsOnly.mapM (fun entry => (ValueRef.read_explained entry.2).map _) values).map _
    refine read.bind fun placeholders => FailsOnly.bind (.mapError fun e failed => ?_) fun message =>
      FailsOnly.bind (.mapError fun e _ => Obstacle.explained_ofKind nofun) fun _ => .ok _
    rw [optionElim_eq_error failed]
    exact Obstacle.explained_ofKind nofun

theorem raises_of_effect {instruction : Instruction} {e : RenderError}
    (fails : instruction.effect ctx σ params injected = .error (.fails e)) : ctx.Raises σ e :=
  instruction.effect_explained _ fails

end Instruction

/-- A value that does not pass through directives is stopped by one of them. -/
theorem PrintDirective.applyAll_eq_error {directives : List PrintDirective} {value : Value} {e : RenderError}
    (refuses : applyAll σ directives value = .error e) :
    ∃ directive ∈ directives, ∃ value, directive.apply σ value [] = .error e := by
  induction directives generalizing value with
  | nil => cases refuses
  | cons directive rest ih =>
    rw [applyAll, List.foldlM_cons] at refuses
    cases passed : directive.apply σ value [] with
    | error d =>
      rw [passed] at refuses
      cases refuses
      exact ⟨directive, List.mem_cons_self, value, passed⟩
    | ok next =>
      rw [passed] at refuses
      obtain ⟨other, member, found⟩ := ih refuses
      exact ⟨other, List.mem_cons_of_mem directive member, found⟩

end TemplateEngine
