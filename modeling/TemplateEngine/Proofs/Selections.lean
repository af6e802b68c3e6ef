import TemplateEngine.Proofs.Run

namespace TemplateEngine

/-- What a delegate call asks for, and what it gets. -/
structure Selection where
  delegate : String
  variant : String
  /-- The name of the implementation, which is empty for the template that stands in for one. Nothing is chosen where
  there is none and the call does not allow that. -/
  chosen : Option String
deriving DecidableEq

/-- The selection of a delegate call, once its variant can be read. -/
def DelegateCall.selection? (ctx : RenderContext) (σ : CellStore) (params injected : Record) (call : DelegateCall) :
    Option Selection :=
  (call.variant.read σ params injected).toOption.map fun variant =>
    let resolved := ctx.selectDelegate call.callee (variant.toVariant σ) call.allowEmpty
      (call.data.record params injected) injected
    ⟨call.callee, variant.toVariant σ, resolved.toOption.map ResolvedCallee.name⟩

def Instruction.selection? (ctx : RenderContext) (σ : CellStore) (params injected : Record) :
    Instruction → Option Selection
  | .delegateCall target => target.selection? ctx σ params injected
  | _ => none

/-- The selections of a program in one turn: that of its instruction, if it starts in this turn, and those of the
callee. -/
def Activation.selections (ctx : RenderContext) (σ : CellStore) (inside : Instance → List Selection)
    (frame : Activation) : List Step → Option Instance → List Selection
  | [], _ => []
  | first :: _, slot =>
    match first.inFlight slot with
    | some callee => inside callee
    | none =>
      (first.instruction.selection? ctx σ frame.params frame.injected).toList ++
        match first.instruction.effect ctx σ frame.params frame.injected with
        | .ok (.enter callee) => inside callee
        | _ => []

namespace Instance

/-- The delegates that a template with room for `depth` nested calls selects in its next turn. -/
def selections (ctx : RenderContext) (σ : CellStore) : (depth : Nat) → Instance → List Selection
  | 0, _ => []
  | _ + 1, .empty => []
  | _ + 1, .chunks _ => []
  | depth + 1, .program frame callee => frame.selections ctx σ (selections ctx σ depth) frame.todo callee
  | depth + 1, .escaped wrapper => selections ctx σ depth wrapper.inner

end Instance

/-- A sink together with the delegates that have been selected. -/
structure Noting (S : Type) where
  sink : S
  selected : List Selection

namespace Noting

variable {S : Type} [Sink S]

instance : Sink (Noting S) where
  append text s := ((Sink.append text s.sink).1, ⟨(Sink.append text s.sink).2, s.selected⟩)
  isFull s := ((Sink.isFull s.sink).1, ⟨(Sink.isFull s.sink).2, s.selected⟩)

theorem takes {output : Option Output} {s after : S} (takes : Sink.Takes output s after) (selected : List Selection) :
    Sink.Takes output (⟨s, selected⟩ : Noting S) ⟨after, selected⟩ := by
  cases output with
  | none => exact congrArg (Noting.mk · selected) takes
  | some output =>
    simp only [Sink.Takes, Sink.append] at takes ⊢
    rw [takes]

theorem isFull_eq {s asked : S} {full : Bool} (answer : Sink.isFull s = (full, asked)) (selected : List Selection) :
    Sink.isFull (⟨s, selected⟩ : Noting S) = (full, ⟨asked, selected⟩) := by
  change ((Sink.isFull s).1, (⟨(Sink.isFull s).2, selected⟩ : Noting S)) = _
  rw [answer]

end Noting

namespace Instance

variable {S : Type} [Sink S] {ctx : RenderContext} {σ : CellStore} {depth : Nat}

/-- The first turns of a step, with the delegates that are selected in them. -/
def noted (ctx : RenderContext) (σ : CellStore) (depth : Nat) :
    (turns : Nat) → Instance → Noting S → StepResult Instance (Noting S)
  | 0, template, s => ⟨.ok .limited, template, s⟩
  | turns + 1, template, s =>
    (template.turn ctx σ depth).carryOut (noted ctx σ depth turns)
      { s with selected := s.selected ++ template.selections ctx σ depth }

theorem noted_eq_follow {template next : Instance} {output : Option Output} {pace : Pace} {s after : S}
    (turn : template.turn ctx σ depth = .act output pace next) (takes : Sink.Takes output s after) (turns : Nat)
    (selected : List Selection) :
    noted ctx σ depth (turns + 1) template ⟨s, selected⟩ =
      pace.follow (noted ctx σ depth turns) next ⟨after, selected ++ template.selections ctx σ depth⟩ := by
  have takes := Noting.takes takes (selected ++ template.selections ctx σ depth)
  rw [noted, turn]
  cases output with
  | none => exact congrArg (pace.follow _ next) takes.symm
  | some output =>
    simp only [Sink.Takes] at takes
    simp only [Turn.carryOut, takes]

end Instance

namespace RenderState

variable {S : Type} [Sink S]

/-- The delegates that are selected in the first turns of a step. A selection is made where a delegate call starts, and
not again where its callee goes on in a later step. -/
def selections (ctx : RenderContext) (x : RenderState S) (turns : Nat) : List Selection :=
  (x.template.noted ctx x.store ctx.callDepth turns ⟨x.sink, []⟩).sink.selected

end RenderState

end TemplateEngine
