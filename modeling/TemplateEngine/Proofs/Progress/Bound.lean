import Mathlib.Data.List.MinMax
import TemplateEngine.Proofs.Progress.Accounts
import TemplateEngine.Proofs.Room

namespace TemplateEngine

namespace RenderContext

/-- The most questions of any template that an instruction can call, given the most for instructions. -/
def mostInside (ctx : RenderContext) (most : List Step → Nat) (instruction : Instruction) : Nat :=
  ((instruction.callees ctx).map fun entry =>
    match entry.body with
    | .program p => most p.steps
    | _ => 0).foldr max 0

/-- The most questions of the callees of instructions. -/
def mostCalls (ctx : RenderContext) (most : List Step → Nat) (steps : List Step) : Nat :=
  steps.foldr (fun step calls => ctx.mostInside most step.instruction + calls) 0

/-- The most questions of a program with room for `depth` nested calls, its own and those of its callees. -/
def mostPauses (ctx : RenderContext) : (depth : Nat) → List Step → Nat
  | 0, _ => 0
  | depth + 1, steps => steps.length - 1 + ctx.mostCalls (ctx.mostPauses depth) steps

end RenderContext

/-- The most questions that are left for a template. Behind directives nothing is asked. -/
def Instance.mostPauses (ctx : RenderContext) : (depth : Nat) → Instance → Nat
  | depth + 1, .program frame none => ctx.mostPauses (depth + 1) frame.todo
  | depth + 1, .program frame (some callee) =>
    callee.mostPauses ctx depth + (frame.todo.tail.length + ctx.mostCalls (ctx.mostPauses depth) frame.todo.tail)
  | _, _ => 0

variable {ctx : RenderContext} {σ : CellStore} {depth : Nat} {params injected : Record} {template : Instance}
variable {frame : Activation} {first : Step} {rest : List Step} {chosen : List Selection}

theorem Instance.mostPauses_program (depth : Nat) (frame : Activation) :
    Instance.mostPauses ctx depth (.program frame none) = ctx.mostPauses depth frame.todo := by
  cases depth <;> rfl

/-- A callee that starts has at most what its template has. -/
theorem Instruction.mostPauses_enter {instruction : Instruction} {callee : Instance}
    (entered : instruction.effect ctx σ params injected = .ok (.enter callee)) :
    callee.mostPauses ctx depth ≤ ctx.mostInside (ctx.mostPauses depth) instruction := by
  obtain ⟨inner, origin, wrapped⟩ := effect_enter entered
  have within : inner.mostPauses ctx depth ≤ ctx.mostInside (ctx.mostPauses depth) instruction := by
    rcases origin with rfl | ⟨entry, data, calls, -, rfl⟩
    · cases depth <;> exact Nat.zero_le _
    · refine List.le_max_of_le' 0 (List.mem_map_of_mem calls.mem_callees) ?_
      rw [TemplateEntry.start]
      cases depth with
      | zero => exact Nat.zero_le _
      | succ depth => cases entry.body <;> exact Nat.le_refl _
  rcases wrapped with rfl | ⟨directives, kind, rfl, -⟩
  · exact within
  · cases depth <;> exact Nat.zero_le _

/-- An account that bounds what is left by the most that there can be. -/
def AtMost (ctx : RenderContext) (depth : Nat) (template : Instance) (_ : List Selection) (n : Nat) : Prop :=
  n ≤ template.mostPauses ctx depth

namespace Activation

theorem complete_atMost (output : Option Output)
    (leaves : rest.length + ctx.mostCalls (ctx.mostPauses depth) rest ≤ template.mostPauses ctx (depth + 1)) :
    (frame.complete rest none output).Accounts (AtMost ctx (depth + 1)) template chosen := by
  cases rest with
  | nil => exact Nat.zero_le _
  | cons second rest =>
    intro later n (bound : n ≤ rest.length + ctx.mostCalls (ctx.mostPauses depth) (second :: rest))
    refine Nat.le_trans ?_ leaves
    rw [List.length_cons]
    omega

theorem relay_atMost {callee : Instance} {selected : List Selection} {turn : Turn}
    (accounts : turn.Accounts (AtMost ctx depth) callee selected)
    (leaves : callee.mostPauses ctx depth + (rest.length + ctx.mostCalls (ctx.mostPauses depth) rest) ≤
      template.mostPauses ctx (depth + 1)) :
    (frame.relay first rest turn).Accounts (AtMost ctx (depth + 1)) template chosen := by
  cases turn with
  | await c stopped =>
    intro later n (bound : n ≤ stopped.mostPauses ctx depth + (rest.length + ctx.mostCalls (ctx.mostPauses depth) rest))
    have before : stopped.mostPauses ctx depth ≤ callee.mostPauses ctx depth := accounts [] _ (Nat.le_refl _)
    exact (by omega : n ≤ template.mostPauses ctx (depth + 1))
  | fail e stopped => trivial
  | act output pace next =>
    cases pace with
    | finished => exact complete_atMost _ (Nat.le_trans (Nat.le_add_left ..) leaves)
    | asking =>
      intro later n (bound : n ≤ next.mostPauses ctx depth + (rest.length + ctx.mostCalls (ctx.mostPauses depth) rest))
      have before : next.mostPauses ctx depth + 1 ≤ callee.mostPauses ctx depth := accounts [] _ (Nat.le_refl _)
      exact (by omega : n + 1 ≤ template.mostPauses ctx (depth + 1))
    | onward =>
      intro later n (bound : n ≤ next.mostPauses ctx depth + (rest.length + ctx.mostCalls (ctx.mostPauses depth) rest))
      have before : next.mostPauses ctx depth ≤ callee.mostPauses ctx depth := accounts [] _ (Nat.le_refl _)
      exact (by omega : n ≤ template.mostPauses ctx (depth + 1))
    | resting => exact accounts.elim

end Activation

theorem Escaped.turn_atMost {w : Escaped Instance} {turn : Turn}
    (accounts : turn.Accounts (AtMost ctx depth) w.inner chosen) :
    (w.turn σ turn).Accounts (AtMost ctx (depth + 1)) (.escaped w) chosen := by
  cases turn with
  | await c inner => exact fun later n nothing => nothing
  | fail e inner => trivial
  | act output pace next =>
    cases pace with
    | finished =>
      simp only [turn, deliver]
      split
      · trivial
      · exact Nat.zero_le _
    | asking | onward => exact fun later n nothing => nothing
    | resting => exact accounts.elim

/-- No turn asks more than there was to ask before it. -/
theorem Instance.turn_atMost {p : Parts} (hereditary : Hereditary ctx σ p) {template : Instance}
    (made : template.MadeOf p) (chosen : List Selection) :
    (template.turn ctx σ depth).Accounts (AtMost ctx depth) template chosen := by
  induction depth generalizing template chosen with
  | zero => trivial
  | succ depth ih =>
    cases made with
    | empty => exact Nat.zero_le _
    | escaped _ inside => exact Escaped.turn_atMost (ih inside chosen)
    | @calling frame callee holds atCall inside =>
      obtain ⟨name, todo, params, injected⟩ := frame
      cases todo with
      | nil => exact Nat.zero_le _
      | cons first rest =>
        have calls := AtCall.cons.mp atCall callee rfl
        rw [turn, Activation.turn_inFlight ctx σ _ _ rest (Step.inFlight_of_calls calls _)]
        exact Activation.relay_atMost (ih inside chosen) (Nat.le_refl _)
    | @program frame holds =>
      obtain ⟨name, todo, params, injected⟩ := frame
      cases todo with
      | nil => exact Nat.zero_le _
      | cons first rest =>
        have whole : ctx.mostInside (ctx.mostPauses depth) first.instruction +
            (rest.length + ctx.mostCalls (ctx.mostPauses depth) rest) =
              Instance.mostPauses ctx (depth + 1) (.program ⟨name, first :: rest, params, injected⟩ none) :=
          Nat.add_left_comm ..
        rcases Activation.turn_idle ctx σ (turn ctx σ depth) ⟨name, first :: rest, params, injected⟩ rest
          first.inFlight_none with
          ⟨c, -, same⟩ | ⟨e, -, same⟩ | ⟨callee, entered, same⟩ | ⟨output, -, same⟩
        · simp only [turn, same]
          exact fun later n bound => bound
        · simp only [turn, same, Turn.Accounts]
        · simp only [turn, same]
          refine Activation.relay_atMost (ih (hereditary.enter holds entered) chosen) ?_
          rw [← whole]
          exact Nat.add_le_add_right (Instruction.mostPauses_enter entered) _
        · simp only [turn, same]
          exact Activation.complete_atMost output (whole ▸ Nat.le_add_left ..)

end TemplateEngine
