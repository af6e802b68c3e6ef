import TemplateEngine.Proofs.Run
import TemplateEngine.Render.Handle

namespace TemplateEngine

variable {τ S : Type}

namespace Handle

/-- The template and the sink that resuming a handle hands to the next step, unless the handle refuses. -/
def call? (h : Handle τ S) : Option (τ × S) := if h.status = .done then none else h.state

/-- What a handle that refuses answers. -/
def refusal (h : Handle τ S) : ErrorKind := if h.status = .done then .alreadyDone else .alreadyResumed

/-- Resuming is refused, whatever the template would do, and changes nothing. -/
def Refuses (h : Handle τ S) (kind : ErrorKind) : Prop := ∀ step, h.resume step = (.error (.ofKind kind), h)

/-- Resuming takes one step of the template, answers with the handle that it leads to, and the state is gone. -/
def Invokes (h : Handle τ S) (template : τ) (sink : S) : Prop :=
  ∀ step, h.resume step = (ofStep (step template sink), { h with state := none })

theorem unfinished_of_call {h : Handle τ S} {given : τ × S} (calls : h.call? = some given) : h.status ≠ .done :=
  fun done => by simp [call?, done] at calls

theorem resume_call {h : Handle τ S} {given : τ × S} (calls : h.call? = some given)
    (step : τ → S → StepResult τ S) :
    h.resume step = (ofStep (step given.1 given.2), { h with state := none }) := by
  have unfinished := unfinished_of_call calls
  simp only [call?, if_neg unfinished] at calls
  simp only [resume, if_neg unfinished, calls]

theorem resume_refusal {h : Handle τ S} (refuses : h.call? = none) (step : τ → S → StepResult τ S) :
    h.resume step = (.error (.ofKind h.refusal), h) := by
  by_cases done : h.status = .done
  · simp [resume, refusal, done]
  · simp only [call?, if_neg done] at refuses
    simp only [resume, refusal, if_neg done, refuses]

theorem refuses_iff {h : Handle τ S} {kind : ErrorKind} : h.Refuses kind ↔ h.call? = none ∧ kind = h.refusal := by
  constructor
  · intro refuses
    cases calls : h.call? with
    | none =>
      have same := (resume_refusal calls fun t s => ⟨.ok .done, t, s⟩).symm.trans (refuses _)
      simp only [Prod.mk.injEq, Except.error.injEq, RenderError.ofKind, RenderError.mk.injEq] at same
      exact ⟨rfl, same.1.1.symm⟩
    | some given =>
      have same := (resume_call calls fun t s => ⟨.ok .done, t, s⟩).symm.trans (refuses _)
      cases (Prod.mk.inj same).1
  · rintro ⟨calls, rfl⟩ step
    exact resume_refusal calls step

theorem invokes_iff {h : Handle τ S} {template : τ} {sink : S} :
    h.Invokes template sink ↔ h.call? = some (template, sink) := by
  constructor
  · intro invokes
    cases calls : h.call? with
    | none =>
      have same := (resume_refusal calls fun t s => ⟨.ok .done, t, s⟩).symm.trans (invokes _)
      cases (Prod.mk.inj same).1
    | some given =>
      have same := (resume_call calls fun t s => ⟨.ok .done, t, s⟩).symm.trans (invokes _)
      have handle := Except.ok.inj (Prod.mk.inj same).1
      exact congrArg Handle.state handle
  · exact fun calls step => resume_call calls step

end Handle

/-- A step that has been taken. -/
structure Call (τ S : Type) where
  /-- The handle that was resumed; none for the first step. -/
  resumed : Option Nat
  template : τ
  sink : S
  result : StepResult τ S

/-- The handles of a render, by number, and the steps that have been taken. -/
structure Chain (τ S : Type) where
  /-- How many handles there have been. -/
  count : Nat
  /-- The handles that are still there. -/
  handle? : Nat → Option (Handle τ S)
  calls : List (Call τ S)

/-- What a caller may do with a handle. -/
inductive Operation (τ S : Type)
  | resume (i : Nat) (step : τ → S → StepResult τ S)
  /-- Does something to the sink, if the handle still has it. -/
  | relieve (i : Nat) (change : S → S)
  /-- Takes the sink out of the handle, or drops the handle. -/
  | consume (i : Nat)

namespace Chain

def put (chain : Chain τ S) (i : Nat) (h : Option (Handle τ S)) : Chain τ S :=
  { chain with handle? := fun j => if j = i then h else chain.handle? j }

/-- Takes in the handle that a step has led to. -/
def add (chain : Chain τ S) : Except RenderError (Handle τ S) → Chain τ S
  | .error _ => chain
  | .ok h => { chain.put chain.count (some h) with count := chain.count + 1 }

def start (step : τ → S → StepResult τ S) (template : τ) (sink : S) : Chain τ S :=
  add ⟨0, fun _ => none, [⟨none, template, sink, step template sink⟩]⟩ (Handle.start step template sink)

/-- The chain with the step that resuming a handle takes, if it does take one. -/
def record (chain : Chain τ S) (i : Nat) (h : Handle τ S) (step : τ → S → StepResult τ S) : Chain τ S :=
  match h.call? with
  | none => chain
  | some (template, sink) => { chain with calls := chain.calls ++ [⟨some i, template, sink, step template sink⟩] }

def apply (chain : Chain τ S) : Operation τ S → Chain τ S
  | .resume i step =>
    match chain.handle? i with
    | none => chain
    | some h => ((chain.record i h step).put i (some (h.resume step).2)).add (h.resume step).1
  | .relieve i change =>
    match chain.handle? i with
    | none => chain
    | some h => chain.put i (some ((h.sink?.map fun sink => h.withSink (change sink)).getD h))
  | .consume i => chain.put i none

def run (chain : Chain τ S) (operations : List (Operation τ S)) : Chain τ S := operations.foldl apply chain

/-- An earlier attempt to resume a handle has been accepted. -/
def Resumed (chain : Chain τ S) (i : Nat) : Prop := ∃ call ∈ chain.calls, call.resumed = some i

theorem handle?_put {chain : Chain τ S} {i j : Nat} {next : Option (Handle τ S)} {h : Handle τ S} :
    (chain.put i next).handle? j = some h ↔ (j = i ∧ next = some h) ∨ (j ≠ i ∧ chain.handle? j = some h) := by
  by_cases same : j = i <;> simp [put, same]

theorem put_self {chain : Chain τ S} {i : Nat} {h : Handle τ S} (here : chain.handle? i = some h) :
    chain.put i (some h) = chain := by
  have same : (fun j => if j = i then some h else chain.handle? j) = chain.handle? := by
    funext j
    split
    next found => rw [found, here]
    next => rfl
  rw [put, same]

theorem add_calls (chain : Chain τ S) (next : Except RenderError (Handle τ S)) :
    (chain.add next).calls = chain.calls := by
  cases next <;> rfl

theorem apply_refused {chain : Chain τ S} {i : Nat} {h : Handle τ S} (here : chain.handle? i = some h)
    (refuses : h.call? = none) (step : τ → S → StepResult τ S) : chain.apply (.resume i step) = chain := by
  simp only [apply, here, record, refuses, h.resume_refusal refuses, add, put_self here]

theorem apply_accepted {chain : Chain τ S} {i : Nat} {h : Handle τ S} (here : chain.handle? i = some h)
    {given : τ × S} (calls : h.call? = some given) (step : τ → S → StepResult τ S) :
    let call : Call τ S := ⟨some i, given.1, given.2, step given.1 given.2⟩
    chain.apply (.resume i step) =
      ({ chain with calls := chain.calls ++ [call] }.put i (some { h with state := none })).add
        (Handle.ofStep call.result) := by
  simp only [apply, here, record, calls, h.resume_call calls]

end Chain

end TemplateEngine
