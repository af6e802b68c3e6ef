import TemplateEngine.Proofs.Errors.WholeOutputs

namespace TemplateEngine

namespace Instance

/-- A template finishes some instructions and has nothing left to do then. Each of its moves is made with some store
out of those that there are. -/
inductive Completes (ctx : RenderContext) (stores : CellStore → Prop) (depth : Nat) :
    Instance → List Finished → Prop
  | ended {template : Instance} (ended : template.Ended) : Completes ctx stores depth template []
  | move {template next : Instance} {σ done more} (among : stores σ) (move : template.Move ctx σ depth done next)
      (later : Completes ctx stores depth next more) : Completes ctx stores depth template (done ++ more)

theorem Moves.completes {ctx : RenderContext} {stores : CellStore → Prop} {depth : Nat} {σ : CellStore}
    {template last : Instance} {done more : List Finished} (moves : template.Moves ctx σ depth done last)
    (among : stores σ) (later : last.Completes ctx stores depth more) :
    template.Completes ctx stores depth (done ++ more) := by
  induction moves with
  | here => exact later
  | further move _ ih =>
    rw [List.append_assoc]
    exact .move among move (ih later)

end Instance

namespace RenderState

variable {S : Type} [Sink S] {ctx : RenderContext} {p : Parts}

/-- The last step of a run is done. -/
def Completed (ctx : RenderContext) (run : List (RenderState S)) : Prop := ∃ x ∈ run, (x.result ctx).outcome = .ok .done

/-- A run that is done in the end has written what its template finishes. -/
theorem Completed.completes (hereditary : ∀ σ, Hereditary ctx σ p) {stores : CellStore → Prop}
    {rounds : List (Round S)} {x : RenderState S} (completed : Completed ctx (x.run ctx rounds))
    (among : ∀ y ∈ x.run ctx rounds, stores y.store) (made : x.template.MadeOf p) :
    ∃ done, x.template.Completes ctx stores ctx.callDepth done ∧
      RenderState.written ctx (x.run ctx rounds) = Finished.total done := by
  induction rounds generalizing x with
  | nil =>
    obtain ⟨y, member, -⟩ := completed
    cases member
  | cons round rounds ih =>
    rw [run_cons] at completed among ⊢
    obtain ⟨done, last, written, moves, stops⟩ := ((x.prepare round).trace ctx).finishes (hereditary _) made
    have here := among _ List.mem_cons_self
    have all (later : List (RenderState S)) : RenderState.written ctx (x.prepare round :: later) =
        Finished.total done ++ RenderState.written ctx later := by
      rw [← written]
      exact String.join_cons ..
    by_cases resumable : ((x.prepare round).result ctx).resumable
    · rw [if_pos resumable] at completed among ⊢
      have left : last = ((x.prepare round).result ctx).template := by
        cases outcome : ((x.prepare round).result ctx).outcome with
        | error e => simp [StepResult.resumable, outcome] at resumable
        | ok status =>
          rw [outcome] at stops
          cases status with
          | done => simp [StepResult.resumable, outcome] at resumable
          | limited | detached => exact stops
      have later : Completed ctx (((x.prepare round).resume ctx).run ctx rounds) := by
        obtain ⟨y, member, done⟩ := completed
        rcases List.mem_cons.mp member with rfl | member
        · simp [StepResult.resumable, done] at resumable
        · exact ⟨y, member, done⟩
      have made' : ((x.prepare round).resume ctx).template.MadeOf p :=
        (Instance.course_step ctx _ ctx.callDepth _ _).madeOf (hereditary _) made
      obtain ⟨more, completes, wrote⟩ := ih later (fun y member => among y (List.mem_cons_of_mem _ member)) made'
      refine ⟨done ++ more, (left ▸ moves).completes here completes, ?_⟩
      rw [all, wrote, Finished.total_append]
    · rw [if_neg resumable] at completed ⊢
      have last' : ((x.prepare round).result ctx).outcome = .ok .done := by
        obtain ⟨y, member, finished⟩ := completed
        rwa [List.mem_singleton.mp member] at finished
      rw [last'] at stops
      refine ⟨done ++ [], moves.completes here (.ended stops), ?_⟩
      rw [all, List.append_nil]
      exact String.append_empty

end RenderState

end TemplateEngine
