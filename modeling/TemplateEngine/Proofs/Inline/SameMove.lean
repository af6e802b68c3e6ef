import TemplateEngine.Proofs.Lockstep

namespace TemplateEngine

namespace Output

theorem Alike.refl (output : Option Output) : Alike output output := by
  cases output with
  | none => exact .none
  | some output => exact .some rfl fun _ => rfl

theorem Alike.symm {a b : Option Output} (alike : Alike a b) : Alike b a := by
  cases alike with
  | none => exact .none
  | some text refusal => exact .some text.symm fun e => (refusal e).symm

/-- Relayed outputs differ only in the frames of their failures. -/
theorem Alike.relay {a b : Option Output} (alike : Alike a b) (frame : Activation) (first : Step) (rest : List Step) :
    Alike (a.map (frame.relayOutput first rest)) b := by
  cases alike with
  | none => exact .none
  | some text refusal => exact .some text refusal

end Output

theorem Turn.Alike.symm {r : Instance → Instance → Prop} {turn turn' : Turn} (alike : turn.Alike r turn') :
    turn'.Alike (fun a b => r b a) turn := by
  cases alike with
  | await related => exact .await related
  | fail kind => exact .fail kind.symm
  | act outputs related => exact .act outputs.symm related

namespace Activation

variable {ctx : RenderContext} {σ : CellStore} {f g : Activation} {first first' : Step} {rest rest' : List Step}

/-- Two programs at instructions that do the same: both await a cell there, both fail, both go on with a callee
in flight, or both complete the instruction. -/
inductive SameMove (f : Activation) (first : Step) (rest : List Step) (g : Activation) (first' : Step)
    (rest' : List Step) : Turn → Turn → Prop
  | await {c slot} (held : AtCall (first :: rest) slot) :
      SameMove f first rest g first' rest' (.await c (.program { f with todo := first :: rest } slot))
        (.await c (.program { g with todo := first' :: rest' } slot))
  | fail {e d a b} (kind : e.kind = d.kind) : SameMove f first rest g first' rest' (.fail e a) (.fail d b)
  | stays {o p pace callee} (calls : first.instruction.calls = true) (outputs : Output.Alike o p)
      (unfinished : pace ≠ .finished) :
      SameMove f first rest g first' rest' (.act o pace (.program { f with todo := first :: rest } (some callee)))
        (.act p pace (.program { g with todo := first' :: rest' } (some callee)))
  | completes {o p} (outputs : Output.Alike o p) :
      SameMove f first rest g first' rest' (f.complete rest none o) (g.complete rest' none p)

theorem relay_sameMove (calls : first.instruction.calls = true) (turn : Turn) :
    SameMove f first rest g first' rest' (f.relay first rest turn) (g.relay first' rest' turn) := by
  have relayed (output : Option Output) :
      Output.Alike (output.map (f.relayOutput first rest)) (output.map (g.relayOutput first' rest')) :=
    (((Output.Alike.refl output).relay g first' rest').symm).relay f first rest
  cases turn with
  | await c callee => exact .await (.of_calls rfl calls _)
  | fail e callee => exact .fail rfl
  | act output pace next =>
    by_cases finished : pace = .finished
    · subst finished
      exact .completes (relayed output)
    · rw [relay_unfinished f first rest output next finished, relay_unfinished g first' rest' output next finished]
      exact .stays calls (relayed output) finished

variable (f g first first' rest rest') in
/-- Instructions with one effect make the same move, or go on with a callee that does different things for them. -/
theorem turn_sameMove {turn turn' : Instance → Turn}
    (effects : first'.instruction.effect ctx σ g.params g.injected =
      first.instruction.effect ctx σ f.params f.injected)
    (same : first'.instruction.calls = first.instruction.calls) {slot : Option Instance}
    (held : AtCall (first :: rest) slot) :
    SameMove f first rest g first' rest' (f.turn ctx σ turn (first :: rest) slot)
        (g.turn ctx σ turn' (first' :: rest') slot) ∨
      ∃ callee, turn callee ≠ turn' callee ∧
        f.turn ctx σ turn (first :: rest) slot = f.relay first rest (turn callee) ∧
        g.turn ctx σ turn' (first' :: rest') slot = g.relay first' rest' (turn' callee) := by
  have goesOn (callee : Instance) (calls : first.instruction.calls = true)
      (here : f.turn ctx σ turn (first :: rest) slot = f.relay first rest (turn callee))
      (there : g.turn ctx σ turn' (first' :: rest') slot = g.relay first' rest' (turn' callee)) :
      SameMove f first rest g first' rest' (f.turn ctx σ turn (first :: rest) slot)
          (g.turn ctx σ turn' (first' :: rest') slot) ∨
        ∃ callee, turn callee ≠ turn' callee ∧
          f.turn ctx σ turn (first :: rest) slot = f.relay first rest (turn callee) ∧
          g.turn ctx σ turn' (first' :: rest') slot = g.relay first' rest' (turn' callee) := by
    by_cases agree : turn callee = turn' callee
    · rw [here, there, agree]
      exact .inl (relay_sameMove calls (turn' callee))
    · exact .inr ⟨callee, agree, here, there⟩
  cases slot with
  | some callee =>
    have calls : first.instruction.calls = true := AtCall.cons.mp held callee rfl
    exact goesOn callee calls (turn_inFlight ctx σ turn f rest (Step.inFlight_of_calls calls (some callee)))
      (turn_inFlight ctx σ turn' g rest' (Step.inFlight_of_calls (same.trans calls) (some callee)))
  | none =>
    cases work : first.instruction.effect ctx σ f.params f.injected with
    | error obstacle =>
      simp only [Activation.turn, Step.inFlight_none, effects, work]
      cases obstacle with
      | awaits c => exact .inl (.await (.none _))
      | fails e => exact .inl (.fail rfl)
    | ok effect =>
      cases effect with
      | enter callee =>
        refine goesOn callee (Instruction.calls_of_enter work) ?_ ?_
        · simp only [Activation.turn, Step.inFlight_none, work]
        · simp only [Activation.turn, Step.inFlight_none, effects, work]
      | silent =>
        simp only [Activation.turn, Step.inFlight_none, effects, work]
        exact .inl (.completes .none)
      | write text | writeMessage text =>
        simp only [Activation.turn, Step.inFlight_none, effects, work]
        exact .inl (.completes (.some rfl fun _ => rfl))

/-- After an instruction that both complete, two programs end, or ask whether to pause and stay related. -/
theorem complete_alike {r : Instance → Instance → Prop} {o p : Option Output} (outputs : Output.Alike o p)
    (ends : rest.isEmpty = rest'.isEmpty)
    (completed : rest ≠ [] → r (.program { f with todo := rest } none) (.program { g with todo := rest' } none)) :
    (f.complete rest none o).Alike r (g.complete rest' none p) := by
  rw [complete, complete, ends]
  refine .act outputs fun unfinished => completed ?_
  rintro rfl
  rw [← ends] at unfinished
  exact unfinished rfl

theorem SameMove.alike {r : Instance → Instance → Prop} {turn turn' : Turn}
    (move : SameMove f first rest g first' rest' turn turn') (ends : rest.isEmpty = rest'.isEmpty)
    (stays : ∀ slot, AtCall (first :: rest) slot →
      r (.program { f with todo := first :: rest } slot) (.program { g with todo := first' :: rest' } slot))
    (completed : rest ≠ [] → r (.program { f with todo := rest } none) (.program { g with todo := rest' } none)) :
    turn.Alike r turn' := by
  cases move with
  | await held => exact .await (stays _ held)
  | fail kind => exact .fail kind
  | stays calls outputs unfinished => exact .act outputs fun _ => stays _ (.of_calls rfl calls _)
  | completes outputs => exact complete_alike outputs ends completed

/-- A caller of the first program makes the moves of the second, if that has the rest of the caller after its
own. -/
theorem SameMove.relay_alike {r : Instance → Instance → Prop} {turn turn' : Turn} {h : Activation} {call : Step}
    {after : List Step} (move : SameMove f first rest g first' (rest' ++ after) turn turn')
    (ends : rest.isEmpty = rest'.isEmpty)
    (stays : ∀ slot, AtCall (first :: rest) slot →
      r (.program { h with todo := call :: after } (some (.program { f with todo := first :: rest } slot)))
        (.program { g with todo := first' :: (rest' ++ after) } slot))
    (completed : rest ≠ [] →
      r (.program { h with todo := call :: after } (some (.program { f with todo := rest } none)))
        (.program { g with todo := rest' ++ after } none))
    (returned : after ≠ [] → r (.program { h with todo := after } none) (.program { g with todo := after } none)) :
    (h.relay call after turn).Alike r turn' := by
  cases move with
  | await held => exact .await (stays _ held)
  | fail kind => exact .fail kind
  | stays calls outputs unfinished =>
    rw [relay_unfinished h call after _ _ unfinished]
    exact .act (outputs.relay h call after) fun _ => stays _ (.of_calls rfl calls _)
  | completes outputs =>
    cases rest with
    | nil =>
      obtain rfl : rest' = [] := List.isEmpty_iff.mp ends.symm
      exact complete_alike (outputs.relay h call after) rfl returned
    | cons second rest =>
      cases rest' with
      | nil => cases ends
      | cons second' rest' => exact .act (outputs.relay h call after) fun _ => completed (List.cons_ne_nil second rest)

end Activation

end TemplateEngine
