import TemplateEngine.Proofs.Trace

namespace TemplateEngine

variable {ctx : RenderContext} {σ : CellStore} {depth : Nat} {p : Parts}

/-- A template whose innermost program has an instruction that has not been started. -/
def Instance.Unfinished (template : Instance) : Prop :=
  ∃ frame, template.Innermost frame ∧ frame.todo ≠ []

/-- A turn that neither rests nor writes without a question after it. If it asks, something is left to do. -/
def Turn.Steady : Turn → Prop
  | .act _ .resting _ => False
  | .act output .onward _ => output = none
  | .act _ .asking next => next.Unfinished
  | _ => True

namespace Activation

theorem complete_steady (frame : Activation) (rest : List Step) (output : Option Output) :
    (frame.complete rest none output).Steady := by
  cases rest with
  | nil => trivial
  | cons second rest => exact ⟨_, .program (second.inFlight_none), List.cons_ne_nil second rest⟩

/-- The question after the last instruction of a callee is left to the caller, which asks if more is left. -/
theorem relay_steady (frame : Activation) {first : Step} (calls : first.instruction.calls = true) (rest : List Step)
    {turn : Turn} (steady : turn.Steady) : (frame.relay first rest turn).Steady := by
  cases turn with
  | await c callee => trivial
  | fail e callee => trivial
  | act output pace callee =>
    cases pace with
    | finished => exact complete_steady frame rest _
    | resting => exact steady
    | onward =>
      obtain rfl : output = none := steady
      rfl
    | asking =>
      obtain ⟨inner, innermost, left⟩ := steady
      exact ⟨inner, .calling (Step.inFlight_of_calls calls _) innermost, left⟩

end Activation

theorem Escaped.turn_steady (w : Escaped Instance) {turn : Turn} (steady : turn.Steady) :
    (w.turn σ turn).Steady := by
  cases turn with
  | await c inner => trivial
  | fail e inner => trivial
  | act output pace next =>
    cases pace with
    | resting => exact steady
    | asking | onward => rfl
    | finished =>
      simp only [turn, deliver]
      split <;> trivial

theorem Instance.turn_steady (hereditary : Hereditary ctx σ p) {template : Instance} (made : template.MadeOf p) :
    (template.turn ctx σ depth).Steady := by
  induction depth generalizing template with
  | zero => trivial
  | succ depth ih =>
    cases made with
    | empty => trivial
    | escaped _ inside => exact Escaped.turn_steady _ (ih inside)
    | @calling frame callee holds atCall inside =>
      obtain ⟨name, todo, params, injected⟩ := frame
      cases todo with
      | nil => trivial
      | cons first rest =>
        have calls := AtCall.cons.mp atCall callee rfl
        rw [turn, Activation.turn_inFlight ctx σ _ _ rest (Step.inFlight_of_calls calls _)]
        exact Activation.relay_steady _ calls rest (ih inside)
    | @program frame holds =>
      obtain ⟨name, todo, params, injected⟩ := frame
      cases todo with
      | nil => trivial
      | cons first rest =>
        rcases Activation.turn_idle ctx σ (turn ctx σ depth) ⟨name, first :: rest, params, injected⟩ rest
          first.inFlight_none with
          ⟨c, -, same⟩ | ⟨e, -, same⟩ | ⟨callee, entered, same⟩ | ⟨output, -, same⟩
        · simp only [turn, same, Turn.Steady]
        · simp only [turn, same, Turn.Steady]
        · simp only [turn, same]
          exact Activation.relay_steady _ (Instruction.calls_of_enter entered) rest
            (ih (hereditary.enter holds entered))
        · simp only [turn, same]
          exact Activation.complete_steady _ rest output

/-- What a sink is asked from one state to another, at the pace of a step. A text is followed by a question,
unless it is the last; after a question more may come if the sink wants no pause, and nothing if it does. -/
inductive Paced {S : Type} [Sink S] : S → List SinkEvent → Bool → S → Prop
  | quiet {s} : Paced s [] false s
  | last {s text answer after} (append : Sink.append text s = (answer, after)) :
      Paced s [.append text answer] false after
  | full {s after} (answer : Sink.isFull s = (true, after)) : Paced s [.asked true] true after
  | further {s next log full after} (answer : Sink.isFull s = (false, next)) (later : Paced next log full after) :
      Paced s (.asked false :: log) full after
  | wrote {s text next answer log full after} (append : Sink.append text s = (.ok (), next))
      (later : Paced next (.asked answer :: log) full after) :
      Paced s (.append text (.ok ()) :: .asked answer :: log) full after

namespace Paced

variable {S : Type} [Sink S] {s after : S} {log : List SinkEvent} {full : Bool}

theorem eq_nil_of_full (paced : Paced s (.asked true :: log) full after) : log = [] ∧ full = true := by
  cases paced with
  | full => exact ⟨rfl, rfl⟩

theorem asked_between (paced : Paced s log full after) {front between later : List SinkEvent}
    {text text' : String} {answer answer' : Except SinkError Unit}
    (split : log = front ++ .append text answer :: (between ++ .append text' answer' :: later)) :
    .asked false ∈ between := by
  induction paced generalizing front with
  | quiet => simp at split
  | last append =>
    cases front with
    | nil => simp at split
    | cons event front => simp at split
  | full answer =>
    cases front with
    | nil => simp at split
    | cons event front => simp at split
  | further answer later ih =>
    cases front with
    | nil => simp at split
    | cons event front => exact ih (List.cons.inj split).2
  | @wrote s text next answer log full after append rest ih =>
    cases front with
    | cons event front => exact ih (List.cons.inj split).2
    | nil =>
      have split := (List.cons.inj split).2
      cases between with
      | nil => simp at split
      | cons event between =>
        obtain ⟨rfl, remaining⟩ := List.cons.inj split
        cases answer with
        | false => exact List.mem_cons_self
        | true =>
          rw [rest.eq_nil_of_full.1] at remaining
          simp at remaining

theorem granted (paced : Paced s log full after) {front later : List SinkEvent}
    (split : log = front ++ .asked true :: later) : later = [] ∧ full = true := by
  induction paced generalizing front with
  | quiet => simp at split
  | last append => cases front <;> simp at split
  | full answer =>
    cases front with
    | nil => exact ⟨(List.cons.inj split).2.symm, rfl⟩
    | cons event front => simp at split
  | further answer later ih =>
    cases front with
    | nil => simp at split
    | cons event front => exact ih (List.cons.inj split).2
  | wrote append rest ih =>
    cases front with
    | nil => simp at split
    | cons event front => exact ih (List.cons.inj split).2

/-- A pause is made only because the sink has just asked for it. -/
theorem wished (paced : Paced s log true after) :
    (∃ front, log = front ++ [.asked true]) ∧ ∃ asked : S, Sink.isFull asked = (true, after) := by
  generalize pause : true = full at paced
  induction paced with
  | quiet => simp at pause
  | last append => simp at pause
  | @full s after answer => exact ⟨⟨[], rfl⟩, s, answer⟩
  | further answer later ih =>
    obtain ⟨⟨front, rfl⟩, asked⟩ := ih pause
    exact ⟨⟨_ :: front, rfl⟩, asked⟩
  | wrote append rest ih =>
    obtain ⟨⟨front, split⟩, asked⟩ := ih pause
    exact ⟨⟨_ :: front, by rw [split]; rfl⟩, asked⟩

/-- Drained before a step, a limited buffer holds less than its limit whenever a text is appended. -/
theorem limited_within {b last : LimitedBuffer} (paced : Paced b log full last) :
    last = ⟨b.text ++ SinkEvent.written log, b.limit⟩ ∧
      ∀ {front later : List SinkEvent} {text : String} {answer : Except SinkError Unit},
        log = front ++ .append text answer :: later → (front = [] → b.text.utf8ByteSize ≤ b.limit - 1) →
          (b.text ++ SinkEvent.written front).utf8ByteSize ≤ b.limit - 1 := by
  have unwritten (b : LimitedBuffer) : (⟨b.text ++ SinkEvent.written [], b.limit⟩ : LimitedBuffer) = b := by
    simp [SinkEvent.written]
  have alone {b : LimitedBuffer} {event : SinkEvent} {front later : List SinkEvent} {text : String}
      {answer : Except SinkError Unit} (split : [event] = front ++ .append text answer :: later)
      (start : front = [] → b.text.utf8ByteSize ≤ b.limit - 1) :
      (b.text ++ SinkEvent.written front).utf8ByteSize ≤ b.limit - 1 := by
    cases front with
    | nil => simpa [SinkEvent.written] using start rfl
    | cons event front => simp at split
  have question (b : LimitedBuffer) : Sink.isFull b = (b.isFull, b) := rfl
  induction paced with
  | quiet => exact ⟨(unwritten _).symm, fun split => by simp at split⟩
  | last append =>
    cases append
    exact ⟨by simp [SinkEvent.written, SinkEvent.taken], alone⟩
  | full answer =>
    rw [question, Prod.mk.injEq] at answer
    obtain ⟨-, rfl⟩ := answer
    exact ⟨by simp [SinkEvent.written, SinkEvent.taken], alone⟩
  | @further b next log full last answer later ih =>
    rw [question, Prod.mk.injEq] at answer
    obtain ⟨below, rfl⟩ := answer
    have room : b.text.utf8ByteSize < b.limit := by simpa [LimitedBuffer.isFull] using below
    refine ⟨by rw [SinkEvent.written_asked]; exact ih.1, ?_⟩
    intro front later text answer split start
    cases front with
    | nil => simp at split
    | cons event front =>
      obtain ⟨rfl, remaining⟩ := List.cons.inj split
      rw [SinkEvent.written_asked]
      exact ih.2 remaining fun _ => by omega
  | @wrote b text next answer log full last append rest ih =>
    cases append
    have appended (log : List SinkEvent) :
        b.text ++ SinkEvent.written (.append text (.ok ()) :: log) = b.text ++ text ++ SinkEvent.written log := by
      simp [SinkEvent.written, SinkEvent.taken, String.append_assoc]
    refine ⟨by rw [appended]; exact ih.1, ?_⟩
    intro front later text' answer' split start
    cases front with
    | nil => simpa [SinkEvent.written] using start rfl
    | cons event front =>
      obtain ⟨rfl, remaining⟩ := List.cons.inj split
      rw [appended]
      refine ih.2 remaining fun nothing => ?_
      subst nothing
      simp at remaining

end Paced

/-- An output and the question after it. -/
theorem Paced.takes {S : Type} [Sink S] {output : Option Output} {s next last : S} {answer full : Bool}
    {log : List SinkEvent} (takes : Sink.Takes output s next) (later : Paced next (.asked answer :: log) full last) :
    Paced s (Output.events output ++ .asked answer :: log) full last := by
  cases output with
  | none =>
    obtain rfl : next = s := takes
    exact later
  | some output => exact .wrote takes later

namespace Instance

/-- A step keeps to the pace of its sink, and is limited only when the sink asks for it and something is left
to do. -/
theorem Trace.paced (hereditary : Hereditary ctx σ p) {S : Type} [Sink S] {template : Instance} {s : S}
    {log : List SinkEvent} {result : StepResult Instance S} (trace : template.Trace ctx σ depth s log result)
    (made : template.MadeOf p) :
    ∃ full, Paced s log full result.sink ∧ (full = true ↔ result.outcome = .ok .limited) ∧
      (result.outcome = .ok .limited → result.template.Unfinished) := by
  have steady {template : Instance} {turn : Turn} (same : template.turn ctx σ depth = turn)
      (made : template.MadeOf p) : turn.Steady := same ▸ turn_steady hereditary made
  induction trace with
  | await turn | fail turn => exact ⟨false, .quiet, by simp, by simp⟩
  | refused turn append => exact ⟨false, .last append, by simp, by simp⟩
  | @finished template output next s after turn takes =>
    cases output with
    | none =>
      obtain rfl : after = s := takes
      exact ⟨false, .quiet, by simp, by simp⟩
    | some output => exact ⟨false, .last takes, by simp, by simp⟩
  | rested turn takes => exact (steady turn made).elim
  | full turn takes answer => exact ⟨true, (Paced.full answer).takes takes, by simp, fun _ => steady turn made⟩
  | further turn takes answer later ih =>
    obtain ⟨full, paced, pause, unfinished⟩ := ih (madeOf_of_act hereditary turn made)
    exact ⟨full, (Paced.further answer paced).takes takes, pause, unfinished⟩
  | @onward template output next s after log result turn takes later ih =>
    obtain rfl : output = none := steady turn made
    obtain rfl : after = s := takes
    exact ih (madeOf_of_act hereditary turn made)

end Instance

end TemplateEngine
