import TemplateEngine.Proofs.Errors.Prints
import TemplateEngine.Proofs.Escaped.Atomic

namespace TemplateEngine

/-- An instruction that is finished, and its complete output. -/
inductive Finished
  | printed (instruction : Instruction) (text : String)
  /-- A call whose output has passed through directives, with what was written behind them. -/
  | delivered (inside text : String)

namespace Finished

def text : Finished → String
  | .printed _ text => text
  | .delivered _ text => text

/-- The outputs of instructions, in their order. -/
def total (done : List Finished) : String := String.join (done.map text)

theorem total_append (done more : List Finished) : total (done ++ more) = total done ++ total more := by
  rw [total, List.map_append, String.join_append]
  rfl

end Finished

namespace Instance

variable {ctx : RenderContext} {σ : CellStore} {depth : Nat}

/-- A template that has nothing left to do. -/
inductive Ended : Instance → Prop
  | empty : Ended .empty
  | program {frame callee} (nothing : frame.todo = []) : Ended (.program frame callee)

/-- A template with room for `depth` nested calls finishes an instruction, or goes into a call or out of it. -/
inductive Move (ctx : RenderContext) (σ : CellStore) : Nat → Instance → List Finished → Instance → Prop
  | print {depth frame first rest slot text} (todo : frame.todo = first :: rest) (idle : first.inFlight slot = none)
      (prints : first.instruction.Prints ctx σ frame.params frame.injected text) :
      Move ctx σ (depth + 1) (.program frame slot) [.printed first.instruction text]
        (.program { frame with todo := rest } slot)
  | enter {depth frame first rest slot callee} (todo : frame.todo = first :: rest) (idle : first.inFlight slot = none)
      (starts : first.instruction.effect ctx σ frame.params frame.injected = .ok (.enter callee)) :
      Move ctx σ (depth + 1) (.program frame slot) [] (.program frame (some callee))
  | inside {depth frame first rest callee done next} (todo : frame.todo = first :: rest)
      (calls : first.instruction.calls = true) (move : Move ctx σ depth callee done next) :
      Move ctx σ (depth + 1) (.program frame (some callee)) done (.program frame (some next))
  | leave {depth frame first rest callee} (todo : frame.todo = first :: rest)
      (calls : first.instruction.calls = true) (ended : callee.Ended) :
      Move ctx σ (depth + 2) (.program frame (some callee)) [] (.program { frame with todo := rest } none)
  /-- What is written behind directives goes into a buffer. -/
  | collect {depth done next} {w : Escaped Instance} (move : Move ctx σ depth w.inner done next) :
      Move ctx σ (depth + 1) (.escaped w) []
        (.escaped { w with inner := next, buffer := ⟨w.buffer.text ++ Finished.total done⟩ })
  | deliver {depth value} {w : Escaped Instance} (ended : w.inner.Ended)
      (passes : Escaped.output σ w.directives w.kind w.buffer.text = .ok value) :
      Move ctx σ (depth + 2) (.escaped w) [.delivered w.buffer.text (σ.text value)] .empty

/-- A template cannot go on because of an error, which is given as it is raised: with no frames but those that a
directive or a function has put there. -/
inductive Fails (ctx : RenderContext) (σ : CellStore) : Nat → Instance → RenderError → Prop
  | tooDeep {template} : Fails ctx σ 0 template (.ofKind .callsTooDeep)
  | instruction {depth frame first rest slot e} (todo : frame.todo = first :: rest)
      (idle : first.inFlight slot = none)
      (fails : first.instruction.effect ctx σ frame.params frame.injected = .error (.fails e)) :
      Fails ctx σ (depth + 1) (.program frame slot) e
  | inside {depth frame first rest callee e} (todo : frame.todo = first :: rest)
      (calls : first.instruction.calls = true) (fails : Fails ctx σ depth callee e) :
      Fails ctx σ (depth + 1) (.program frame (some callee)) e
  | behind {depth e} {w : Escaped Instance} (fails : Fails ctx σ depth w.inner e) :
      Fails ctx σ (depth + 1) (.escaped w) e
  | directives {depth e} {w : Escaped Instance} (ended : w.inner.Ended)
      (refuses : Escaped.output σ w.directives w.kind w.buffer.text = .error e) :
      Fails ctx σ (depth + 2) (.escaped w) e

/-- The instructions that a template finishes from one point to another. -/
inductive Moves (ctx : RenderContext) (σ : CellStore) (depth : Nat) : Instance → List Finished → Instance → Prop
  | here {template} : Moves ctx σ depth template [] template
  | further {template done next more last} (move : template.Move ctx σ depth done next)
      (later : Moves ctx σ depth next more last) : Moves ctx σ depth template (done ++ more) last

theorem Move.moves {template next : Instance} {done : List Finished} (move : template.Move ctx σ depth done next) :
    template.Moves ctx σ depth done next := by
  simpa using Moves.further move .here

theorem Moves.trans {template next last : Instance} {done more : List Finished}
    (moves : template.Moves ctx σ depth done next) (later : next.Moves ctx σ depth more last) :
    template.Moves ctx σ depth (done ++ more) last := by
  induction moves with
  | here => exact later
  | further move _ ih =>
    rw [List.append_assoc]
    exact .further move (ih later)

theorem Moves.inside {callee next : Instance} {done : List Finished} (moves : callee.Moves ctx σ depth done next)
    {frame : Activation} {first : Step} {rest : List Step} (todo : frame.todo = first :: rest)
    (calls : first.instruction.calls = true) :
    Moves ctx σ (depth + 1) (.program frame (some callee)) done (.program frame (some next)) := by
  induction moves with
  | here => exact .here
  | further move _ ih => exact .further (.inside todo calls move) ih

theorem Moves.collect {inner next : Instance} {done : List Finished} (moves : inner.Moves ctx σ depth done next)
    (directives : List PrintDirective) (kind : Option ContentKind) (written : String) :
    Moves ctx σ (depth + 1) (.escaped ⟨inner, directives, kind, ⟨written⟩⟩) []
      (.escaped ⟨next, directives, kind, ⟨written ++ Finished.total done⟩⟩) := by
  induction moves generalizing written with
  | here =>
    rw [Finished.total, List.map_nil, String.join_nil, String.append_empty]
    exact .here
  | @further inner done middle more last move _ ih =>
    rw [Finished.total_append, ← String.append_assoc]
    have first : Move ctx σ (depth + 1) (.escaped ⟨inner, directives, kind, ⟨written⟩⟩) []
        (.escaped ⟨middle, directives, kind, ⟨written ++ Finished.total done⟩⟩) := .collect move
    exact first.moves.trans (ih _)

theorem Ended.not_move {template next : Instance} {done : List Finished} (ended : template.Ended) :
    ¬ template.Move ctx σ depth done next := by
  intro move
  cases ended with
  | empty => cases move
  | program nothing => cases move <;> simp_all

/-- An instruction that calls and has a callee in flight is not idle. -/
theorem not_idle {first : Step} (calls : first.instruction.calls = true) {callee : Instance} :
    first.inFlight (some callee) ≠ none := by
  rw [Step.inFlight_of_calls calls]
  exact Option.some_ne_none callee

/-- A template goes on in one way only. -/
theorem Move.deterministic {template next other : Instance} {done done' : List Finished}
    (move : template.Move ctx σ depth done next) (move' : template.Move ctx σ depth done' other) :
    done = done' ∧ next = other := by
  induction move generalizing done' other with
  | print todo idle prints =>
    obtain ⟨effect, worked, printed⟩ := prints.effect
    cases move' with
    | print todo' idle' prints' =>
      obtain ⟨rfl, rfl⟩ := List.cons.inj (todo.symm.trans todo')
      obtain ⟨effect', worked', printed'⟩ := prints'.effect
      obtain rfl : effect = effect' := Except.ok.inj (worked.symm.trans worked')
      obtain rfl := Option.some.inj (printed.symm.trans printed')
      exact ⟨rfl, rfl⟩
    | enter todo' idle' starts =>
      obtain ⟨rfl, rfl⟩ := List.cons.inj (todo.symm.trans todo')
      obtain rfl := Except.ok.inj (worked.symm.trans starts)
      cases printed
    | inside todo' calls | leave todo' calls =>
      obtain ⟨rfl, rfl⟩ := List.cons.inj (todo.symm.trans todo')
      exact absurd idle (not_idle calls)
  | enter todo idle starts =>
    cases move' with
    | print todo' idle' prints =>
      obtain ⟨rfl, rfl⟩ := List.cons.inj (todo.symm.trans todo')
      obtain ⟨effect, worked, printed⟩ := prints.effect
      obtain rfl := Except.ok.inj (worked.symm.trans starts)
      cases printed
    | enter todo' idle' starts' =>
      obtain ⟨rfl, rfl⟩ := List.cons.inj (todo.symm.trans todo')
      obtain rfl := Effect.enter.inj (Except.ok.inj (starts.symm.trans starts'))
      exact ⟨rfl, rfl⟩
    | inside todo' calls | leave todo' calls =>
      obtain ⟨rfl, rfl⟩ := List.cons.inj (todo.symm.trans todo')
      exact absurd idle (not_idle calls)
  | inside todo calls move ih =>
    cases move' with
    | print todo' idle | enter todo' idle =>
      obtain ⟨rfl, rfl⟩ := List.cons.inj (todo.symm.trans todo')
      exact absurd idle (not_idle calls)
    | inside todo' calls' move' =>
      obtain ⟨rfl, rfl⟩ := ih move'
      exact ⟨rfl, rfl⟩
    | leave todo' calls' ended => exact absurd move ended.not_move
  | leave todo calls ended =>
    cases move' with
    | print todo' idle | enter todo' idle =>
      obtain ⟨rfl, rfl⟩ := List.cons.inj (todo.symm.trans todo')
      exact absurd idle (not_idle calls)
    | inside todo' calls' move' => exact absurd move' ended.not_move
    | leave todo' calls' ended' =>
      obtain ⟨rfl, rfl⟩ := List.cons.inj (todo.symm.trans todo')
      exact ⟨rfl, rfl⟩
  | collect move ih =>
    cases move' with
    | collect move' =>
      obtain ⟨rfl, rfl⟩ := ih move'
      exact ⟨rfl, rfl⟩
    | deliver ended passes => exact absurd move ended.not_move
  | deliver ended passes =>
    cases move' with
    | collect move' => exact absurd move' ended.not_move
    | deliver ended' passes' =>
      obtain rfl := Except.ok.inj (passes.symm.trans passes')
      exact ⟨rfl, rfl⟩

theorem Ended.not_fails {template : Instance} {e : RenderError} (ended : template.Ended) :
    ¬ template.Fails ctx σ (depth + 1) e := by
  intro fails
  cases ended with
  | empty => cases fails
  | program nothing => cases fails <;> simp_all

/-- A template that fails finishes nothing more. -/
theorem Fails.not_move {template next : Instance} {done : List Finished} {e : RenderError}
    (fails : template.Fails ctx σ depth e) : ¬ template.Move ctx σ depth done next := by
  intro move
  induction fails generalizing done next with
  | tooDeep => cases move
  | instruction todo idle fails =>
    cases move with
    | print todo' idle' prints =>
      obtain ⟨rfl, rfl⟩ := List.cons.inj (todo.symm.trans todo')
      obtain ⟨effect, worked, -⟩ := prints.effect
      cases fails.symm.trans worked
    | enter todo' idle' starts =>
      obtain ⟨rfl, rfl⟩ := List.cons.inj (todo.symm.trans todo')
      cases fails.symm.trans starts
    | inside todo' calls | leave todo' calls =>
      obtain ⟨rfl, rfl⟩ := List.cons.inj (todo.symm.trans todo')
      exact not_idle calls idle
  | inside todo calls fails ih =>
    cases move with
    | print todo' idle | enter todo' idle =>
      obtain ⟨rfl, rfl⟩ := List.cons.inj (todo.symm.trans todo')
      exact not_idle calls idle
    | inside todo' calls' move => exact ih move
    | leave todo' calls' ended => exact ended.not_fails fails
  | behind fails ih =>
    cases move with
    | collect move => exact ih move
    | deliver ended passes => exact ended.not_fails fails
  | directives ended refuses =>
    cases move with
    | collect move => exact ended.not_move move
    | deliver ended' passes => cases refuses.symm.trans passes

/-- Up to where a template fails, nothing else can be finished, and in no other order. -/
theorem Moves.prefix_of_fails {template last other : Instance} {done given : List Finished} {e : RenderError}
    (moves : template.Moves ctx σ depth done last) (fails : last.Fails ctx σ depth e)
    (elsewhere : template.Moves ctx σ depth given other) : given <+: done := by
  induction moves generalizing given other with
  | here =>
    cases elsewhere with
    | here => exact List.prefix_rfl
    | further move _ => exact absurd move fails.not_move
  | further move _ ih =>
    cases elsewhere with
    | here => exact List.nil_prefix
    | further move' later' =>
      obtain ⟨rfl, rfl⟩ := move.deterministic move'
      exact (List.prefix_append_right_inj _).mpr (ih fails later')

end Instance

end TemplateEngine
