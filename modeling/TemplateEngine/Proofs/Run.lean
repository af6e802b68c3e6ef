import TemplateEngine.Proofs.Slots

namespace TemplateEngine

def StepResult.resumable {τ S : Type} (result : StepResult τ S) : Bool :=
  match result.outcome with
  | .ok .limited => true
  | .ok (.detached _) => true
  | _ => false

/-- A render where a step is taken: what is known of the cells, the template and the sink. -/
structure RenderState (S : Type) where
  store : CellStore
  template : Instance
  sink : S

/-- What happens before a step: some cells are completed, and the caller does something to the sink. -/
structure Round (S : Type) where
  completions : List Completion
  relieve : S → S

namespace RenderState

variable {S : Type}

def prepare (x : RenderState S) (round : Round S) : RenderState S :=
  ⟨x.store.applyAll round.completions, x.template, round.relieve x.sink⟩

variable [Sink S]

def result (ctx : RenderContext) (x : RenderState S) : StepResult Instance S :=
  x.template.advance ctx x.store x.sink

def resume (ctx : RenderContext) (x : RenderState S) : RenderState S :=
  ⟨x.store, (x.result ctx).template, (x.result ctx).sink⟩

def run (ctx : RenderContext) : RenderState S → List (Round S) → List (RenderState S)
  | _, [] => []
  | x, round :: rounds =>
    let y := x.prepare round
    y :: if (y.result ctx).resumable then run ctx (y.resume ctx) rounds else []

variable {ctx : RenderContext}

theorem run_cons (x : RenderState S) (round : Round S) (rounds : List (Round S)) :
    x.run ctx (round :: rounds) =
      x.prepare round ::
        if ((x.prepare round).result ctx).resumable then ((x.prepare round).resume ctx).run ctx rounds else [] := rfl

/-- Where a step is taken a round has just been prepared, and before it held what every round and every step
keep. -/
theorem run_prepared {p : RenderState S → Prop} {rounds : List (Round S)}
    (prepare : ∀ x, ∀ round ∈ rounds, p x → p (x.prepare round)) (resume : ∀ x, p x → p (x.resume ctx))
    {x y : RenderState S} (member : y ∈ x.run ctx rounds) (start : p x) :
    ∃ before, ∃ round ∈ rounds, p before ∧ y = before.prepare round := by
  induction rounds generalizing x with
  | nil => simp [run] at member
  | cons round rounds ih =>
    rcases List.mem_cons.mp member with rfl | later
    · exact ⟨x, round, List.mem_cons_self, start, rfl⟩
    · split at later
      · have here := resume _ (prepare x round List.mem_cons_self start)
        obtain ⟨before, last, among, holds, rfl⟩ :=
          ih (fun x round member => prepare x round (List.mem_cons_of_mem _ member)) later here
        exact ⟨before, last, List.mem_cons_of_mem _ among, holds, rfl⟩
      · simp at later

/-- What every round and every step keep holds at all steps of a run. -/
theorem run_induction {p : RenderState S → Prop} {rounds : List (Round S)}
    (prepare : ∀ x, ∀ round ∈ rounds, p x → p (x.prepare round)) (resume : ∀ x, p x → p (x.resume ctx))
    {x y : RenderState S} (member : y ∈ x.run ctx rounds) (start : p x) : p y := by
  obtain ⟨before, round, among, holds, rfl⟩ := run_prepared prepare resume member start
  exact prepare before round among holds

theorem store_precedes {rounds : List (Round S)} {x y : RenderState S} (member : y ∈ x.run ctx rounds) :
    x.store.Precedes y.store := by
  refine run_induction (p := fun z => x.store.Precedes z.store) ?_ (fun z order => order) member (.refl _)
  intro z round _ order
  exact order.trans (z.store.precedes_applyAll round.completions)

/-- Cells that are complete at a step are complete at all later steps. -/
theorem run_pairwise (x : RenderState S) (rounds : List (Round S)) :
    (x.run ctx rounds).Pairwise (fun y z => y.store.Precedes z.store) := by
  induction rounds generalizing x with
  | nil => exact .nil
  | cons round rounds ih =>
    refine .cons ?_ ?_
    · intro z member
      split at member
      · have order : ((x.prepare round).resume ctx).store.Precedes z.store := store_precedes member
        exact order
      · simp at member
    · split
      · exact ih _
      · exact .nil

theorem run_madeOf {p : Parts} (hereditary : ∀ σ, Hereditary ctx σ p) {rounds : List (Round S)}
    {x y : RenderState S} (member : y ∈ x.run ctx rounds) (made : x.template.MadeOf p) :
    y.template.MadeOf p := by
  refine run_induction (p := fun z => z.template.MadeOf p) (fun z round _ made => made) ?_ member made
  intro z made
  exact (Instance.course_step ctx z.store ctx.callDepth z.template z.sink).madeOf (hereditary z.store) made

end RenderState

end TemplateEngine
