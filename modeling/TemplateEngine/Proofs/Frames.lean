import TemplateEngine.Proofs.Reads
import TemplateEngine.Proofs.Turn.Course

namespace TemplateEngine

/-- What is required of the parts of a template. -/
structure Parts where
  program : Activation → Prop
  directive : PrintDirective → Prop

def Parts.any : Parts := ⟨fun _ => True, fun _ => True⟩

/-- The callee in flight that a program goes on with: that of the instruction it is at. -/
def Activation.inFlight (frame : Activation) (slot : Option Instance) : Option Instance :=
  frame.todo.head?.bind fun step => step.inFlight slot

/-- A callee is in flight only where the first of the instructions left is a call. -/
def AtCall (todo : List Step) (slot : Option Instance) : Prop :=
  ∀ callee ∈ slot, ∃ first ∈ todo.head?, first.instruction.calls = true

namespace AtCall

variable {first : Step} {rest : List Step} {slot : Option Instance}

theorem none (todo : List Step) : AtCall todo none := nofun

theorem cons : AtCall (first :: rest) slot ↔ ∀ callee ∈ slot, first.instruction.calls = true := by
  simp [AtCall]

theorem not_nil {callee : Instance} : ¬ AtCall [] (some callee) := fun held => by simpa using held callee rfl

theorem of_calls {todo : List Step} (head : todo = first :: rest) (calls : first.instruction.calls = true)
    (slot : Option Instance) : AtCall todo slot := by
  subst head
  exact cons.mpr fun _ _ => calls

/-- Where the first instruction has no callee in flight, there is none at all. -/
theorem eq_none (held : AtCall (first :: rest) slot) (idle : first.inFlight slot = Option.none) :
    slot = Option.none := by
  cases slot with
  | none => rfl
  | some callee =>
    rw [Step.inFlight_of_calls (cons.mp held callee rfl)] at idle
    cases idle

end AtCall

namespace Instance

/-- A template made of programs, some of them behind directives, that are as required, each with a callee in
flight only at a call. What is required holds of everything on the call stack: a caller hands it down to the
templates it calls. -/
inductive MadeOf (p : Parts) : Instance → Prop
  | empty : MadeOf p .empty
  | program {frame} (holds : p.program frame) : MadeOf p (.program frame none)
  | calling {frame callee} (holds : p.program frame) (atCall : AtCall frame.todo (some callee))
      (inside : MadeOf p callee) : MadeOf p (.program frame (some callee))
  | escaped {w : Escaped Instance} (directives : ∀ directive ∈ w.directives, p.directive directive)
      (inside : MadeOf p w.inner) : MadeOf p (.escaped w)

/-- The innermost program of a template: the one whose instruction has no callee in flight. -/
inductive Innermost : Instance → Activation → Prop
  | program {frame slot} (idle : frame.inFlight slot = none) : Innermost (.program frame slot) frame
  | calling {frame slot callee inner} (running : frame.inFlight slot = some callee) (inside : Innermost callee inner) :
      Innermost (.program frame slot) inner
  | escaped {w : Escaped Instance} {inner} (inside : Innermost w.inner inner) : Innermost (.escaped w) inner

theorem MadeOf.frame {p : Parts} {frame : Activation} {slot : Option Instance}
    (made : MadeOf p (.program frame slot)) : p.program frame := by
  cases made with
  | program holds => exact holds
  | calling holds _ _ => exact holds

theorem MadeOf.atCall {p : Parts} {frame : Activation} {slot : Option Instance}
    (made : MadeOf p (.program frame slot)) : AtCall frame.todo slot := by
  cases made with
  | program _ => exact .none _
  | calling _ atCall _ => exact atCall

theorem MadeOf.callee {p : Parts} {frame : Activation} {callee : Instance}
    (made : MadeOf p (.program frame (some callee))) : callee.MadeOf p := by
  cases made with
  | calling _ _ inside => exact inside

theorem MadeOf.innermost {p : Parts} {template : Instance} {frame : Activation}
    (made : template.MadeOf p) (innermost : template.Innermost frame) : p.program frame := by
  induction innermost with
  | program => exact made.frame
  | calling running _ ih =>
    obtain ⟨step, -, running⟩ := Option.bind_eq_some_iff.mp running
    obtain ⟨-, rfl⟩ := Step.inFlight_eq_some.mp running
    exact ih made.callee
  | escaped _ ih =>
    cases made with
    | escaped _ inside => exact ih inside

end Instance

/-- A requirement that a program meets for as long as it runs, and so do the templates it calls. -/
structure Hereditary (ctx : RenderContext) (σ : CellStore) (p : Parts) : Prop where
  rest : ∀ {frame : Activation} {first : Step} {rest : List Step},
    p.program { frame with todo := first :: rest } → p.program { frame with todo := rest }
  enter : ∀ {frame : Activation} {first : Step} {rest : List Step} {callee : Instance},
    p.program { frame with todo := first :: rest } →
      first.instruction.effect ctx σ frame.params frame.injected = .ok (.enter callee) → callee.MadeOf p

/-- Whatever a turn leaves behind is made of parts as required. -/
def Turn.MadeOf (p : Parts) : Turn → Prop
  | .await _ stopped => stopped.MadeOf p
  | .fail _ stopped => stopped.MadeOf p
  | .act output _ next => (∀ given ∈ output, given.retry.MadeOf p) ∧ next.MadeOf p

variable {ctx : RenderContext} {σ : CellStore} {p : Parts}

theorem Activation.relay_madeOf (hereditary : Hereditary ctx σ p) {frame : Activation} {first : Step}
    {rest : List Step} (holds : p.program { frame with todo := first :: rest })
    (calls : first.instruction.calls = true) {turn : Turn} (made : turn.MadeOf p) :
    (frame.relay first rest turn).MadeOf p := by
  have atCall (callee : Instance) : AtCall (first :: rest) (some callee) := .of_calls rfl calls _
  cases turn with
  | await c callee => exact .calling holds (atCall callee) made
  | fail e callee => exact .calling holds (atCall callee) made
  | act output pace next =>
    have relayed : ∀ given ∈ output.map (frame.relayOutput first rest), given.retry.MadeOf p := by
      intro given member
      obtain ⟨inner, found, rfl⟩ := Option.map_eq_some_iff.mp member
      exact .calling holds (atCall _) (made.1 inner found)
    cases pace with
    | finished => exact ⟨relayed, .program (hereditary.rest holds)⟩
    | asking | onward | resting => exact ⟨relayed, .calling holds (atCall _) made.2⟩

theorem Activation.turn_madeOf (hereditary : Hereditary ctx σ p) {depth : Nat}
    (callees : ∀ callee : Instance, callee.MadeOf p → (callee.turn ctx σ depth).MadeOf p) {frame : Activation}
    {steps : List Step} {callee : Option Instance}
    (made : Instance.MadeOf p (.program { frame with todo := steps } callee)) :
    (frame.turn ctx σ (Instance.turn ctx σ depth) steps callee).MadeOf p := by
  cases steps with
  | nil => exact ⟨by simp, made⟩
  | cons first rest =>
    have holds := made.frame
    cases running : first.inFlight callee with
    | some inFlight =>
      obtain ⟨calls, rfl⟩ := Step.inFlight_eq_some.mp running
      rw [turn_inFlight ctx σ _ frame rest running]
      exact relay_madeOf hereditary holds calls (callees _ made.callee)
    | none =>
      obtain rfl := made.atCall.eq_none running
      have further : Instance.MadeOf p (.program { frame with todo := rest } none) :=
        .program (hereditary.rest holds)
      simp only [turn, running]
      split
      · exact made
      · exact made
      · exact ⟨by simp, further⟩
      next callee entered =>
        exact relay_madeOf hereditary holds (Instruction.calls_of_enter entered)
          (callees _ (hereditary.enter holds entered))
      · refine ⟨?_, further⟩
        rintro _ ⟨⟩
        exact made
      · refine ⟨?_, further⟩
        rintro _ ⟨⟩
        exact made

theorem Escaped.turn_madeOf {w : Escaped Instance} (directives : ∀ directive ∈ w.directives, p.directive directive)
    {turn : Turn} (made : turn.MadeOf p) : (w.turn σ turn).MadeOf p := by
  cases turn with
  | await c inner => exact .escaped directives made
  | fail e inner => exact .escaped directives made
  | act output pace next =>
    have collected : Instance.MadeOf p (.escaped (w.collect output next)) := .escaped directives made.2
    cases pace with
    | asking | onward | resting => exact ⟨by simp, collected⟩
    | finished =>
      simp only [turn, deliver]
      split
      · exact .escaped directives made.2
      · refine ⟨?_, .escaped directives made.2⟩
        rintro _ ⟨⟩
        exact .escaped directives made.2

namespace Instance

theorem turn_madeOf (hereditary : Hereditary ctx σ p) {depth : Nat} {template : Instance}
    (made : template.MadeOf p) : (template.turn ctx σ depth).MadeOf p := by
  induction depth generalizing template with
  | zero => exact made
  | succ depth ih =>
    cases template with
    | empty => exact ⟨by simp, .empty⟩
    | chunks rest => cases made
    | program frame callee => exact frame.turn_madeOf hereditary (fun _ made => ih made) made
    | escaped w =>
      cases made with
      | escaped directives inside => exact w.turn_madeOf directives (ih inside)

theorem madeOf_of_act (hereditary : Hereditary ctx σ p) {depth : Nat} {template next : Instance}
    {output : Option Output} {pace : Pace} (turn : template.turn ctx σ depth = .act output pace next)
    (made : template.MadeOf p) : next.MadeOf p := by
  have turned : (template.turn ctx σ depth).MadeOf p := turn_madeOf hereditary made
  rw [turn] at turned
  exact turned.2

theorem Course.madeOf (hereditary : Hereditary ctx σ p) {S : Type} [Sink S] {depth : Nat} {template : Instance}
    {s : S} {result : StepResult Instance S} (course : template.Course ctx σ depth s result)
    (made : template.MadeOf p) : result.template.MadeOf p := by
  have left {template : Instance} {turn : Turn} (same : template.turn ctx σ depth = turn)
      (made : template.MadeOf p) : turn.MadeOf p := same ▸ turn_madeOf hereditary made
  induction course with
  | await turn => exact left turn made
  | fail turn => exact left turn made
  | refused turn append => exact (left turn made).1 _ rfl
  | finished turn takes | rested turn takes | full turn takes answer => exact (left turn made).2
  | further turn takes answer later ih => exact ih (left turn made).2
  | onward turn takes later ih => exact ih (left turn made).2

end Instance

end TemplateEngine
