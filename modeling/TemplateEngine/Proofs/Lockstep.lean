import TemplateEngine.Proofs.Recorder
import TemplateEngine.Proofs.Room

namespace TemplateEngine

variable {ctx : RenderContext} {σ : CellStore} {depth room : Nat}

/-- Outputs with the same text, which fail alike if the sink refuses it. -/
inductive Output.Alike : Option Output → Option Output → Prop
  | none : Alike none none
  | some {a b : Output} (text : a.text = b.text) (refusal : ∀ e, (a.refusal e).kind = (b.refusal e).kind) :
      Alike (some a) (some b)

theorem Output.Alike.takes {a b : Option Output} (alike : Alike a b) {S : Type} [Sink S] {s after : S}
    (takes : Sink.Takes a s after) : Sink.Takes b s after := by
  cases alike with
  | none => exact takes
  | some text refusal =>
    simp only [Sink.Takes, text] at takes
    exact takes

/-- Turns that do the same, up to the frames of errors, and leave related templates. -/
inductive Turn.Alike (r : Instance → Instance → Prop) : Turn → Turn → Prop
  | await {c a b} (related : r a b) : Alike r (.await c a) (.await c b)
  | fail {e d a b} (kind : e.kind = d.kind) : Alike r (.fail e a) (.fail d b)
  | act {o p pace a b} (outputs : Output.Alike o p) (related : pace ≠ .finished → r a b) :
      Alike r (.act o pace a) (.act p pace b)

/-- Results that are the same, up to the frames of errors, and leave related templates. -/
structure StepResult.Alike {S : Type} (r : Instance → Instance → Prop) (a b : StepResult Instance S) : Prop where
  outcome : a.outcome.mapError RenderError.kind = b.outcome.mapError RenderError.kind
  sink : a.sink = b.sink
  template : a.resumable = true → r a.template b.template

theorem StepResult.Alike.resumable {S : Type} {r : Instance → Instance → Prop} {a b : StepResult Instance S}
    (alike : a.Alike r b) : a.resumable = b.resumable := by
  have same := alike.outcome
  simp only [StepResult.resumable]
  cases first : a.outcome with
  | error e =>
    cases second : b.outcome with
    | error d => rfl
    | ok status => simp [first, second] at same
  | ok status =>
    cases second : b.outcome with
    | error d => simp [first, second] at same
    | ok status' =>
      simp only [first, second, mapError_ok, Except.ok.injEq] at same
      rw [same]

/-- Related templates do alike things next, each with room of its own, unless the first lacks room for a call. -/
def KeepsStep (ctx : RenderContext) (σ : CellStore) (depth room : Nat) (r : Instance → Instance → Prop) : Prop :=
  ∀ a b, r a b → (a.turn ctx σ depth).Cramped ∨ (a.turn ctx σ depth).Alike r (b.turn (ctx.withRoom room) σ room)

theorem KeepsStep.act {r : Instance → Instance → Prop} (keeps : KeepsStep ctx σ depth room r) {a b : Instance}
    (related : r a b) {output : Option Output} {pace : Pace} {next : Instance}
    (turn : a.turn ctx σ depth = .act output pace next) :
    ∃ output' next', b.turn (ctx.withRoom room) σ room = .act output' pace next' ∧ Output.Alike output output' ∧
      (pace ≠ .finished → r next next') := by
  rcases keeps a b related with cramped | alike
  · rw [turn] at cramped
    exact cramped.elim
  · rw [turn] at alike
    generalize other : b.turn (ctx.withRoom room) σ room = turn' at alike
    cases alike with
    | act outputs related => exact ⟨_, _, rfl, outputs, related⟩

namespace Instance

variable {S : Type} [Sink S]

theorem Course.alike {r : Instance → Instance → Prop} (keeps : KeepsStep ctx σ depth room r) {a b : Instance} {s : S}
    {result : StepResult Instance S} (course : a.Course ctx σ depth s result) (related : r a b) :
    result.outcome.mapError RenderError.kind = .error .callsTooDeep ∨
      result.Alike r (b.step (ctx.withRoom room) σ room s) := by
  induction course generalizing b with
  | @await a stopped c s turn =>
    rcases keeps a b related with cramped | alike
    · rw [turn] at cramped
      exact cramped.elim
    · rw [turn] at alike
      generalize other : b.turn (ctx.withRoom room) σ room = turn' at alike
      cases alike with
      | await related =>
        rw [step_eq_carryOut, other]
        exact .inr ⟨rfl, rfl, fun _ => related⟩
  | @fail a stopped e s turn =>
    rcases keeps a b related with cramped | alike
    · rw [turn] at cramped
      exact .inl (congrArg Except.error cramped)
    · rw [turn] at alike
      generalize other : b.turn (ctx.withRoom room) σ room = turn' at alike
      cases alike with
      | fail kind =>
        rw [step_eq_carryOut, other]
        exact .inr ⟨congrArg Except.error kind, rfl, fun resumable => by cases resumable⟩
  | @refused a output pace next s after e turn append =>
    obtain ⟨output', next', other, outputs, -⟩ := keeps.act related turn
    cases outputs with
    | some text refusal =>
      rw [text] at append
      rw [step_eq_carryOut, other]
      simp only [Turn.carryOut, append]
      exact .inr ⟨congrArg Except.error (refusal e), rfl, fun resumable => by cases resumable⟩
  | finished turn takes =>
    obtain ⟨output', next', other, outputs, -⟩ := keeps.act related turn
    rw [step_eq_follow other (outputs.takes takes)]
    exact .inr ⟨rfl, rfl, fun resumable => by cases resumable⟩
  | rested turn takes =>
    obtain ⟨output', next', other, outputs, left⟩ := keeps.act related turn
    rw [step_eq_follow other (outputs.takes takes)]
    exact .inr ⟨rfl, rfl, fun _ => left (by simp)⟩
  | full turn takes answer =>
    obtain ⟨output', next', other, outputs, left⟩ := keeps.act related turn
    rw [step_eq_follow other (outputs.takes takes)]
    simp only [Pace.follow, answer]
    exact .inr ⟨rfl, rfl, fun _ => left (by simp)⟩
  | further turn takes answer later ih =>
    obtain ⟨output', next', other, outputs, left⟩ := keeps.act related turn
    rw [step_eq_follow other (outputs.takes takes)]
    simp only [Pace.follow, answer]
    exact ih (left (by simp))
  | onward turn takes later ih =>
    obtain ⟨output', next', other, outputs, left⟩ := keeps.act related turn
    rw [step_eq_follow other (outputs.takes takes)]
    exact ih (left (by simp))

end Instance

namespace RenderState

variable {S : Type} [Sink S]

/-- What a step shows of itself: its result, without the frames of an error, and what it asks of the sink. -/
def outline (ctx : RenderContext) (x : RenderState S) : Except ErrorKind Status × List SinkEvent :=
  ((x.result ctx).outcome.mapError RenderError.kind, x.events ctx)

theorem Cramped.ended {x : RenderState S} (cramped : x.Cramped ctx) : (x.result ctx).resumable = false := by
  rw [Cramped] at cramped
  rw [StepResult.resumable]
  cases outcome : (x.result ctx).outcome with
  | error e => rfl
  | ok status => simp [outcome] at cramped

theorem outline_alike {r : Instance → Instance → Prop} {a b : Instance} (keeps : KeepsStep ctx σ ctx.callDepth room r)
    (related : r a b) (s : S) :
    Cramped ctx ⟨σ, a, s⟩ ∨
      outline ctx ⟨σ, a, s⟩ = outline (ctx.withRoom room) ⟨σ, b, s⟩ ∧
        (result ctx ⟨σ, a, s⟩).Alike r (result (ctx.withRoom room) ⟨σ, b, s⟩) := by
  have course := Instance.course_step ctx σ ctx.callDepth a (Recorder.watch s)
  have seen := result_eq_watched ctx ⟨σ, a, s⟩
  have seen' := result_eq_watched (ctx.withRoom room) ⟨σ, b, s⟩
  rcases course.alike keeps related with cramped | alike
  · refine .inl ?_
    rw [Cramped, seen]
    exact cramped
  · refine .inr ⟨?_, ?_⟩
    · rw [outline, outline, seen, seen']
      exact Prod.ext alike.outcome (congrArg Recorder.log alike.sink)
    · rw [seen, seen']
      exact ⟨alike.outcome, congrArg Recorder.sink alike.sink, alike.template⟩

/-- Runs of templates that keep step show the same, but for a last step in which the first lacks room for a
call. -/
theorem runs_alike {r : Instance → Instance → Prop} (keeps : ∀ σ, KeepsStep ctx σ ctx.callDepth room r)
    {a b : Instance} (related : r a b) (σ : CellStore) (s : S) (rounds : List (Round S)) :
    (run ctx ⟨σ, a, s⟩ rounds).map (outline ctx) =
        (run (ctx.withRoom room) ⟨σ, b, s⟩ rounds).map (outline (ctx.withRoom room)) ∨
      ∃ front last, run ctx ⟨σ, a, s⟩ rounds = front ++ [last] ∧ last.Cramped ctx ∧
        front.map (outline ctx) <+: (run (ctx.withRoom room) ⟨σ, b, s⟩ rounds).map (outline (ctx.withRoom room)) := by
  induction rounds generalizing a b σ s with
  | nil => exact .inl rfl
  | cons round rounds ih =>
    rw [run_cons, run_cons]
    have step := outline_alike (keeps (σ.applyAll round.completions)) related (round.relieve s)
    change Cramped ctx (prepare ⟨σ, a, s⟩ round) ∨
      (prepare ⟨σ, a, s⟩ round).outline ctx = (prepare ⟨σ, b, s⟩ round).outline (ctx.withRoom room) ∧
        ((prepare ⟨σ, a, s⟩ round).result ctx).Alike r ((prepare ⟨σ, b, s⟩ round).result (ctx.withRoom room)) at step
    rcases step with cramped | ⟨same, alike⟩
    · rw [cramped.ended]
      exact .inr ⟨[], _, rfl, cramped, List.nil_prefix⟩
    · rw [← alike.resumable]
      cases resumable : ((prepare ⟨σ, a, s⟩ round).result ctx).resumable with
      | false =>
        refine .inl ?_
        simp only [Bool.false_eq_true, if_false, List.map_cons, List.map_nil, same]
      | true =>
        have later := ih (alike.template resumable) (σ.applyAll round.completions)
          ((prepare ⟨σ, a, s⟩ round).result ctx).sink
        have other : (prepare ⟨σ, b, s⟩ round).resume (ctx.withRoom room) =
            ⟨σ.applyAll round.completions, ((prepare ⟨σ, b, s⟩ round).result (ctx.withRoom room)).template,
              ((prepare ⟨σ, a, s⟩ round).result ctx).sink⟩ := by
          rw [alike.sink]
          rfl
        rw [if_pos rfl, if_pos rfl, other]
        rcases later with equal | ⟨front, last, split, cramped, within⟩
        · refine .inl ?_
          rw [List.map_cons, List.map_cons, same]
          exact congrArg _ equal
        · refine .inr ⟨prepare ⟨σ, a, s⟩ round :: front, last, congrArg _ split, cramped, ?_⟩
          rw [List.map_cons, List.map_cons, same]
          exact List.cons_prefix_cons.mpr ⟨rfl, within⟩

/-- Where the first of two templates that keep step never lacks room, the other does not either, and they show the
same throughout. -/
theorem runs_same {r : Instance → Instance → Prop} (keeps : ∀ σ, KeepsStep ctx σ ctx.callDepth room r)
    {a b : Instance} (related : r a b) (σ : CellStore) (s : S) (rounds : List (Round S))
    (roomy : ∀ x ∈ run ctx ⟨σ, a, s⟩ rounds, ¬ x.Cramped ctx) :
    (run (ctx.withRoom room) ⟨σ, b, s⟩ rounds).map (outline (ctx.withRoom room)) =
        (run ctx ⟨σ, a, s⟩ rounds).map (outline ctx) ∧
      ∀ x ∈ run (ctx.withRoom room) ⟨σ, b, s⟩ rounds, ¬ x.Cramped (ctx.withRoom room) := by
  rcases runs_alike keeps related σ s rounds with same | ⟨front, last, split, cramped, -⟩
  · refine ⟨same.symm, fun x member cramped => ?_⟩
    have shown : x.outline (ctx.withRoom room) ∈ (run ctx ⟨σ, a, s⟩ rounds).map (outline ctx) :=
      same ▸ List.mem_map_of_mem member
    obtain ⟨y, among, outline⟩ := List.mem_map.mp shown
    exact roomy y among ((congrArg Prod.fst outline).trans cramped)
  · exact absurd cramped (roomy last (split ▸ List.mem_append_right front (List.mem_singleton_self last)))

end RenderState

end TemplateEngine
