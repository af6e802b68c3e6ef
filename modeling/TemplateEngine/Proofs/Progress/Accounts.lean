import TemplateEngine.Proofs.Completes
import TemplateEngine.Proofs.Pacing
import TemplateEngine.Proofs.Selections

namespace TemplateEngine

/-- The sink is asked whether it wants a pause. -/
def SinkEvent.isQuestion : SinkEvent → Bool
  | .append .. => false
  | .asked _ => true

/-- The sink is asked and wants no pause. -/
def SinkEvent.isDeclined : SinkEvent → Bool
  | .asked false => true
  | _ => false

def SinkEvent.questions (log : List SinkEvent) : Nat := log.countP isQuestion

def SinkEvent.declined (log : List SinkEvent) : Nat := log.countP isDeclined

def StepResult.isLimited {τ S : Type} (result : StepResult τ S) : Bool :=
  match result.outcome with
  | .ok .limited => true
  | _ => false

/-- A turn keeps an account of templates, of what they are still to select and of how often they are still to ask: it
adds what it selects itself, and its own question if it asks one. -/
def Turn.Accounts (R : Instance → List Selection → Nat → Prop) (template : Instance) (chosen : List Selection) :
    Turn → Prop
  | .await _ stopped => ∀ later n, R stopped later n → R template (chosen ++ later) n
  | .fail .. => True
  | .act _ .finished _ => R template chosen 0
  | .act _ .asking next => ∀ later n, R next later n → R template (chosen ++ later) (n + 1)
  | .act _ .onward next => ∀ later n, R next later n → R template (chosen ++ later) n
  | .act _ .resting _ => False

namespace SinkEvent

theorem questions_events (output : Option Output) (log : List SinkEvent) :
    questions (Output.events output ++ log) = questions log := by
  cases output <;> simp [questions, Output.events, isQuestion]

theorem questions_asked (full : Bool) (log : List SinkEvent) : questions (.asked full :: log) = questions log + 1 :=
  List.countP_cons_of_pos rfl

theorem declined_events (output : Option Output) (log : List SinkEvent) :
    declined (Output.events output ++ log) = declined log := by
  cases output <;> simp [declined, Output.events, isDeclined]

theorem declined_asked (full : Bool) (log : List SinkEvent) :
    declined (.asked full :: log) = declined log + if full then 0 else 1 := by
  cases full with
  | true => exact List.countP_cons_of_neg Bool.false_ne_true
  | false => exact List.countP_cons_of_pos rfl

end SinkEvent

open SinkEvent

variable {ctx : RenderContext} {p : Parts} {R : Instance → List Selection → Nat → Prop} {S : Type} [Sink S]

namespace Instance

variable {σ : CellStore} {depth : Nat}

/-- What a step selects in all, and how its questions are accounted for. -/
structure Accounted (R : Instance → List Selection → Nat → Prop) (ctx : RenderContext) (σ : CellStore) (depth : Nat)
    (template : Instance) (s : S) (log : List SinkEvent) (result : StepResult Instance S) (chosen : List Selection) :
    Prop where
  noted : ∃ turns, ∀ more selected,
    (template.noted ctx σ depth (more + turns) ⟨s, selected⟩).sink.selected = selected ++ chosen
  done : result.outcome = .ok .done → R template chosen (questions log)
  resumable : result.resumable = true → ∀ later n, R result.template later n →
    R template (chosen ++ later) (n + questions log)

/-- A turn stands before what is accounted for already, with the questions that it asks itself. -/
theorem Accounted.cons {template next : Instance} {s after : S} {log all : List SinkEvent}
    {result : StepResult Instance S} {chosen own : List Selection} (asked : Nat)
    (behind : next.Accounted R ctx σ depth after log result chosen)
    (accounts : ∀ later n, R next later n → R template (own ++ later) (n + asked))
    (notes : ∀ turns selected, template.noted ctx σ depth (turns + 1) ⟨s, selected⟩ =
      next.noted ctx σ depth turns ⟨after, selected ++ own⟩)
    (counted : questions all = questions log + asked) :
    template.Accounted R ctx σ depth s all result (own ++ chosen) := by
  obtain ⟨⟨seen, noted⟩, done, resumable⟩ := behind
  refine ⟨⟨seen + 1, fun more selected => ?_⟩, fun outcome => ?_, fun again later n holds => ?_⟩
  · rw [← Nat.add_assoc, notes, noted, List.append_assoc]
  · rw [counted]
    exact accounts chosen _ (done outcome)
  · rw [counted, ← Nat.add_assoc, List.append_assoc]
    exact accounts _ _ (resumable again later n holds)

/-- What every turn keeps account of is accounted for by a step, by induction on its turns. -/
theorem Trace.accounted (hereditary : Hereditary ctx σ p)
    (turns : ∀ template : Instance, template.MadeOf p →
      (template.turn ctx σ depth).Accounts R template (template.selections ctx σ depth))
    {template : Instance} {s : S} {log : List SinkEvent} {result : StepResult Instance S}
    (trace : template.Trace ctx σ depth s log result) (made : template.MadeOf p) :
    ∃ chosen, template.Accounted R ctx σ depth s log result chosen := by
  have accounts {template : Instance} {turn : Turn} (same : template.turn ctx σ depth = turn)
      (made : template.MadeOf p) : turn.Accounts R template (template.selections ctx σ depth) :=
    same ▸ turns template made
  induction trace with
  | @await template _ _ _ turn =>
    refine ⟨template.selections ctx σ depth, ⟨1, fun more selected => ?_⟩, by simp, fun _ => accounts turn made⟩
    rw [Instance.noted, turn]
    rfl
  | @fail template _ _ _ turn =>
    refine ⟨template.selections ctx σ depth, ⟨1, fun more selected => ?_⟩, by simp, by simp [StepResult.resumable]⟩
    rw [Instance.noted, turn]
    rfl
  | @refused template _ _ _ _ _ _ turn append =>
    refine ⟨template.selections ctx σ depth, ⟨1, fun more selected => ?_⟩, by simp, by simp [StepResult.resumable]⟩
    rw [Instance.noted, turn]
    simp only [Turn.carryOut, Sink.append, append]
  | @finished template output _ _ _ turn takes =>
    refine ⟨template.selections ctx σ depth, ⟨1, fun more selected => ?_⟩, fun _ => ?_, by simp [StepResult.resumable]⟩
    · rw [noted_eq_follow turn takes]
      rfl
    · rw [← List.append_nil (Output.events output), questions_events]
      exact accounts turn made
  | rested turn => exact (accounts turn made).elim
  | @full template _ _ _ _ _ turn takes answer =>
    refine ⟨template.selections ctx σ depth, ⟨1, fun more selected => ?_⟩, by simp, fun _ later n holds => ?_⟩
    · rw [noted_eq_follow turn takes]
      simp only [Pace.follow, Noting.isFull_eq answer]
    · rw [questions_events, questions_asked]
      exact accounts turn made later n holds
  | @further template _ _ _ _ _ _ _ turn takes answer _ ih =>
    obtain ⟨chosen, behind⟩ := ih (madeOf_of_act hereditary turn made)
    refine ⟨_, behind.cons 1 (accounts turn made) (fun turns selected => ?_) ?_⟩
    · rw [noted_eq_follow turn takes]
      simp only [Pace.follow, Noting.isFull_eq answer]
    · rw [questions_events, questions_asked]
  | @onward template _ _ _ _ _ _ turn takes _ ih =>
    obtain ⟨chosen, behind⟩ := ih (madeOf_of_act hereditary turn made)
    refine ⟨_, behind.cons 0 (accounts turn made) (fun turns selected => ?_) ?_⟩
    · rw [noted_eq_follow turn takes]
      rfl
    · rw [questions_events]
      rfl

/-- A step is limited by the one question that its sink does not decline. -/
theorem Trace.questions (hereditary : Hereditary ctx σ p) {template : Instance} {s : S} {log : List SinkEvent}
    {result : StepResult Instance S} (trace : template.Trace ctx σ depth s log result) (made : template.MadeOf p) :
    questions log = declined log + if result.isLimited then 1 else 0 := by
  induction trace with
  | await | fail | refused => rfl
  | @finished _ output =>
    rw [← List.append_nil (Output.events output), questions_events, declined_events]
    rfl
  | @rested template output next _ _ turn =>
    have steady : (template.turn ctx σ depth).Steady := turn_steady hereditary made
    rw [turn] at steady
    exact steady.elim
  | full => rw [questions_events, questions_asked, declined_events, declined_asked]; rfl
  | further turn _ _ _ ih =>
    rw [questions_events, questions_asked, declined_events, declined_asked, ih (madeOf_of_act hereditary turn made)]
    simp only [Bool.false_eq_true, if_false]
    omega
  | onward turn _ _ ih => rw [questions_events, declined_events, ih (madeOf_of_act hereditary turn made)]

end Instance

namespace RenderState

/-- The delegates that are selected in all turns of a step. -/
def Selects (ctx : RenderContext) (x : RenderState S) (chosen : List Selection) : Prop :=
  ∃ turns, ∀ more, x.selections ctx (more + turns) = chosen

/-- How often the steps of a run are limited by their sink. -/
def limited (ctx : RenderContext) (run : List (RenderState S)) : Nat := run.countP fun x => (x.result ctx).isLimited

/-- How often the sink declines a pause in a run. -/
def declined (ctx : RenderContext) (run : List (RenderState S)) : Nat := SinkEvent.declined (run.flatMap (events ctx))

variable {rounds : List (Round S)} {x : RenderState S}

theorem accounted (hereditary : Hereditary ctx x.store p)
    (turns : ∀ template : Instance, template.MadeOf p →
      (template.turn ctx x.store ctx.callDepth).Accounts R template (template.selections ctx x.store ctx.callDepth))
    (made : x.template.MadeOf p) :
    ∃ chosen, x.Selects ctx chosen ∧
      x.template.Accounted R ctx x.store ctx.callDepth x.sink (x.events ctx) (x.result ctx) chosen := by
  obtain ⟨chosen, accounted⟩ := (x.trace ctx).accounted hereditary turns made
  obtain ⟨turns, noted⟩ := accounted.noted
  exact ⟨chosen, ⟨turns, fun more => noted more []⟩, accounted⟩

theorem questions_eq (hereditary : Hereditary ctx x.store p) (made : x.template.MadeOf p) :
    questions (x.events ctx) = SinkEvent.declined (x.events ctx) + if (x.result ctx).isLimited then 1 else 0 :=
  (x.trace ctx).questions hereditary made

theorem asked_cons (hereditary : Hereditary ctx x.store p) (made : x.template.MadeOf p) (run : List (RenderState S)) :
    limited ctx (x :: run) + declined ctx (x :: run) =
      limited ctx run + declined ctx run + questions (x.events ctx) := by
  have here : declined ctx (x :: run) = SinkEvent.declined (x.events ctx) + declined ctx run := by
    rw [declined, List.flatMap_cons, SinkEvent.declined, List.countP_append]
    rfl
  rw [x.questions_eq hereditary made, limited, List.countP_cons, here, limited]
  omega

/-- A render that is done has asked as often as it was to ask: each time the sink has declined a pause or made the step
limited. -/
theorem run_accounted (hereditary : ∀ σ, Hereditary ctx σ p)
    (turns : ∀ σ, ∀ template : Instance, template.MadeOf p →
      (template.turn ctx σ ctx.callDepth).Accounts R template (template.selections ctx σ ctx.callDepth))
    (made : x.template.MadeOf p) :
    ∃ chosen, List.Forall₂ (Selects ctx) (x.run ctx rounds) chosen ∧
      (Completed ctx (x.run ctx rounds) →
        R x.template chosen.flatten (limited ctx (x.run ctx rounds) + declined ctx (x.run ctx rounds))) := by
  induction rounds generalizing x with
  | nil => exact ⟨[], .nil, fun ⟨y, member, _⟩ => by cases member⟩
  | cons round rounds ih =>
    rw [run_cons]
    have made : (x.prepare round).template.MadeOf p := made
    obtain ⟨first, selects, accounted⟩ := (x.prepare round).accounted (hereditary _) (turns _) made
    have course := Instance.course_step ctx (x.prepare round).store ctx.callDepth x.template (x.prepare round).sink
    split
    next resumable =>
      obtain ⟨later, selected, completed⟩ := ih (x := (x.prepare round).resume ctx) (course.madeOf (hereditary _) made)
      refine ⟨first :: later, .cons selects selected, ?_⟩
      rintro ⟨y, member, outcome⟩
      have behind : Completed ctx (((x.prepare round).resume ctx).run ctx rounds) := by
        rcases List.mem_cons.mp member with rfl | member
        · simp [StepResult.resumable, outcome] at resumable
        · exact ⟨y, member, outcome⟩
      rw [List.flatten_cons, asked_cons (hereditary _) made]
      exact accounted.resumable resumable _ _ (completed behind)
    next ended =>
      refine ⟨[first], .cons selects .nil, ?_⟩
      rintro ⟨y, member, outcome⟩
      obtain rfl := List.mem_singleton.mp member
      have total : R x.template first (questions ((x.prepare round).events ctx)) := accounted.done outcome
      rw [asked_cons (hereditary _) made]
      simpa [limited, declined, SinkEvent.declined] using total

/-- However a render goes on and whether it ends or not, it is not limited more often than it can ask. -/
theorem run_bounded (hereditary : ∀ σ, Hereditary ctx σ p) {most : Instance → Nat}
    (turns : ∀ σ, ∀ template : Instance, template.MadeOf p →
      (template.turn ctx σ ctx.callDepth).Accounts (fun template _ n => n ≤ most template) template
        (template.selections ctx σ ctx.callDepth))
    (made : x.template.MadeOf p) : limited ctx (x.run ctx rounds) ≤ most x.template := by
  induction rounds generalizing x with
  | nil => exact Nat.zero_le _
  | cons round rounds ih =>
    rw [run_cons]
    have made : (x.prepare round).template.MadeOf p := made
    obtain ⟨first, -, accounted⟩ := (x.prepare round).accounted (hereditary _) (turns _) made
    have asked := (x.prepare round).questions_eq (hereditary _) made
    have course := Instance.course_step ctx (x.prepare round).store ctx.callDepth x.template (x.prepare round).sink
    rw [limited, List.countP_cons]
    split
    next resumable =>
      have later := ih (x := (x.prepare round).resume ctx) (course.madeOf (hereditary _) made)
      have total := accounted.resumable resumable [] _ later
      refine Nat.le_trans (Nat.add_le_add_left ?_ _) total
      omega
    next ended =>
      have unlimited : ((x.prepare round).result ctx).isLimited = false := by
        rw [Bool.not_eq_true, StepResult.resumable] at ended
        rw [StepResult.isLimited]
        split at ended <;> simp_all
      simp [unlimited]

end RenderState

end TemplateEngine
