import Mathlib.Data.List.Chain
import TemplateEngine.Proofs.Handles.Chain

namespace TemplateEngine

namespace Chain

variable {τ S : Type}

/-- A handle with the state of the render. `r` says what callers may have made of the sink since the last step. -/
structure Owns (r : S → S → Prop) (chain : Chain τ S) (i : Nat) (h : Handle τ S) : Prop where
  newest : i + 1 = chain.count
  fresh : ¬ chain.Resumed i
  last : ∃ call ∈ chain.calls.getLast?, call.result.outcome = .ok h.status ∧
    ∃ sink, r call.result.sink sink ∧ h.state = some (call.result.template, sink)

/-- A handle whose state has moved on. -/
structure Spent (chain : Chain τ S) (i : Nat) (h : Handle τ S) : Prop where
  state : h.state = none
  unfinished : h.status ≠ .done
  resumed : chain.Resumed i

/-- A step follows another one that asked to be resumed, with the template and the sink that it left. -/
structure Follows (r : S → S → Prop) (before call : Call τ S) : Prop where
  resumable : before.result.resumable = true
  template : call.template = before.result.template
  sink : r before.result.sink call.sink

/-- What is true of the chain of handles from a first step on. -/
structure Sound (r : S → S → Prop) (first : Call τ S) (chain : Chain τ S) : Prop where
  begins : chain.calls.head? = some first
  linked : chain.calls.IsChain (Follows r)
  known : ∀ i, chain.Resumed i → i < chain.count
  present : ∀ i h, chain.handle? i = some h → i < chain.count
  handles : ∀ i h, chain.handle? i = some h → chain.Owns r i h ∨ chain.Spent i h

/-- What an operation makes of a sink stays within `r`. -/
def Keeps (r : S → S → Prop) : Operation τ S → Prop
  | .relieve _ change => ∀ left sink, r left sink → r left (change sink)
  | _ => True

variable {r : S → S → Prop} {first : Call τ S} {chain : Chain τ S} {i : Nat} {h : Handle τ S}

theorem Owns.put (owns : chain.Owns r i h) (j : Nat) (next : Option (Handle τ S)) :
    (chain.put j next).Owns r i h :=
  ⟨owns.newest, owns.fresh, owns.last⟩

theorem Spent.put (spent : chain.Spent i h) (j : Nat) (next : Option (Handle τ S)) : (chain.put j next).Spent i h :=
  ⟨spent.state, spent.unfinished, spent.resumed⟩

/-- A step with no handle in the way gives a sound chain: its handle, if there is one, has the state. -/
theorem sound_add (refl : ∀ sink, r sink sink) (begins : chain.calls.head? = some first)
    (linked : chain.calls.IsChain (Follows r)) (known : ∀ i, chain.Resumed i → i < chain.count)
    (present : ∀ i h, chain.handle? i = some h → i < chain.count)
    (spent : ∀ i h, chain.handle? i = some h → chain.Spent i h) {call : Call τ S}
    (last : chain.calls.getLast? = some call) : (chain.add (Handle.ofStep call.result)).Sound r first := by
  cases outcome : call.result.outcome with
  | error e =>
    simp only [Handle.ofStep, outcome, Except.map, add]
    exact ⟨begins, linked, known, present, fun i h here => .inr (spent i h here)⟩
  | ok status =>
    simp only [Handle.ofStep, outcome, Except.map, add]
    refine ⟨begins, linked, fun i resumed => Nat.lt_succ_of_lt (known i resumed), fun i h here => ?_,
      fun i h here => ?_⟩
    · rcases handle?_put.mp here with ⟨rfl, -⟩ | ⟨-, there⟩
      · exact Nat.lt_succ_self _
      · exact Nat.lt_succ_of_lt (present i h there)
    · rcases handle?_put.mp here with ⟨rfl, same⟩ | ⟨-, there⟩
      · obtain rfl := Option.some.inj same
        exact .inl ⟨rfl, fun resumed => Nat.lt_irrefl _ (known _ resumed), call, last, outcome, _, refl _, rfl⟩
      · obtain ⟨state, unfinished, resumed⟩ := spent i h there
        exact .inr ⟨state, unfinished, resumed⟩

theorem sound_start (refl : ∀ sink, r sink sink) (step : τ → S → StepResult τ S) (template : τ) (sink : S) :
    (start step template sink).Sound r ⟨none, template, sink, step template sink⟩ := by
  let call : Call τ S := ⟨none, template, sink, step template sink⟩
  change ((⟨0, fun _ => none, [call]⟩ : Chain τ S).add (Handle.ofStep call.result)).Sound r call
  refine sound_add refl rfl (List.isChain_singleton _) (fun i resumed => ?_) (fun i h here => ?_)
    (fun i h here => ?_) rfl
  · obtain ⟨call, among, resumed⟩ := resumed
    obtain rfl := List.mem_singleton.mp among
    cases resumed
  · cases here
  · cases here

theorem Sound.owns (sound : chain.Sound r first) (here : chain.handle? i = some h) {given : τ × S}
    (calls : h.call? = some given) : chain.Owns r i h := by
  rcases sound.handles i h here with owns | spent
  · exact owns
  · simp [Handle.call?, spent.state] at calls

/-- Resuming the owner of the state goes on from the last step. -/
theorem Owns.follows (owns : chain.Owns r i h) {given : τ × S} (calls : h.call? = some given)
    (result : StepResult τ S) :
    ∃ before ∈ chain.calls.getLast?, Follows r before ⟨some i, given.1, given.2, result⟩ := by
  obtain ⟨before, last, outcome, sink, left, state⟩ := owns.last
  have unfinished := Handle.unfinished_of_call calls
  have moved : given = (before.result.template, sink) := by
    simpa [Handle.call?, unfinished, state] using calls.symm
  subst moved
  refine ⟨before, last, ?_, rfl, left⟩
  rw [StepResult.resumable, outcome]
  cases status : h.status with
  | done => exact absurd status unfinished
  | limited | detached => rfl

theorem Sound.resume (refl : ∀ sink, r sink sink) (sound : chain.Sound r first) (i : Nat)
    (step : τ → S → StepResult τ S) : (chain.apply (.resume i step)).Sound r first := by
  cases here : chain.handle? i with
  | none => simpa only [apply, here] using sound
  | some h =>
    cases calls : h.call? with
    | none => rwa [apply_refused here calls]
    | some given =>
      -- The state leaves its owner before the step, so all handles are spent when the next one comes.
      have owns := sound.owns here calls
      rw [apply_accepted here calls]
      obtain ⟨before, last, follows⟩ := owns.follows calls (step given.1 given.2)
      have unfinished := Handle.unfinished_of_call calls
      have newest : i < chain.count := owns.newest ▸ Nat.lt_succ_self i
      refine sound_add refl ?_ ?_ (fun j resumed => ?_) (fun j other there => ?_) (fun j other there => ?_)
        List.getLast?_concat
      · change (chain.calls ++ [_]).head? = some first
        rw [List.head?_append, sound.begins]
        rfl
      · refine List.isChain_append.mpr ⟨sound.linked, List.isChain_singleton _, fun a among b single => ?_⟩
        obtain rfl := Option.some.inj (last.symm.trans among)
        obtain rfl := Option.some.inj single
        exact follows
      · obtain ⟨call, among, resumed⟩ := resumed
        rcases List.mem_append.mp among with earlier | latest
        · exact sound.known j ⟨call, earlier, resumed⟩
        · obtain rfl := List.mem_singleton.mp latest
          exact Option.some.inj resumed ▸ newest
      · rcases handle?_put.mp there with ⟨rfl, -⟩ | ⟨-, there⟩
        · exact newest
        · exact sound.present j other there
      · rcases handle?_put.mp there with ⟨rfl, same⟩ | ⟨apart, there⟩
        · obtain rfl := Option.some.inj same
          exact ⟨rfl, unfinished, _, List.mem_append_right _ List.mem_cons_self, rfl⟩
        -- Any other handle is older than the newest one, so its state has moved on before.
        · rcases sound.handles j other there with owns' | spent
          · exact absurd (Nat.succ.inj (owns'.newest.trans owns.newest.symm)) apart
          · obtain ⟨call, among, resumed⟩ := spent.resumed
            exact ⟨spent.state, spent.unfinished, call, List.mem_append_left _ among, resumed⟩

theorem Sound.relieve (sound : chain.Sound r first) (i : Nat) {change : S → S}
    (keeps : ∀ left sink, r left sink → r left (change sink)) :
    (chain.apply (.relieve i change)).Sound r first := by
  cases here : chain.handle? i with
  | none => simpa only [apply, here] using sound
  | some h =>
    simp only [apply, here]
    refine ⟨sound.begins, sound.linked, sound.known, fun j other there => ?_, fun j other there => ?_⟩
    · rcases handle?_put.mp there with ⟨rfl, -⟩ | ⟨-, there⟩
      · exact sound.present j h here
      · exact sound.present j other there
    · rcases handle?_put.mp there with ⟨rfl, same⟩ | ⟨-, there⟩
      · obtain rfl := Option.some.inj same
        rcases sound.handles j h here with owns | spent
        · obtain ⟨call, last, outcome, sink, left, state⟩ := owns.last
          refine .inl ⟨owns.newest, owns.fresh, call, last, ?_, change sink, keeps _ _ left, ?_⟩
          · simpa [Handle.sink?, Handle.withSink, state] using outcome
          · simp [Handle.sink?, Handle.withSink, state]
        · refine .inr ⟨?_, ?_, spent.resumed⟩
          · simp [Handle.sink?, spent.state]
          · simpa [Handle.sink?, spent.state] using spent.unfinished
      · exact (sound.handles j other there).imp (fun owns => owns.put _ _) fun spent => spent.put _ _

theorem Sound.consume (sound : chain.Sound r first) (i : Nat) : (chain.apply (.consume i)).Sound r first := by
  have kept {j : Nat} {h : Handle τ S} (here : (chain.put i none).handle? j = some h) : chain.handle? j = some h := by
    rcases handle?_put.mp here with ⟨-, gone⟩ | ⟨-, there⟩
    · cases gone
    · exact there
  exact ⟨sound.begins, sound.linked, sound.known, fun j h here => sound.present j h (kept here),
    fun j h here => (sound.handles j h (kept here)).imp (fun owns => owns.put _ _) fun spent => spent.put _ _⟩

theorem Sound.run (refl : ∀ sink, r sink sink) {operations : List (Operation τ S)}
    (keeps : ∀ operation ∈ operations, Keeps r operation) (sound : chain.Sound r first) :
    (chain.run operations).Sound r first := by
  induction operations generalizing chain with
  | nil => exact sound
  | cons operation rest ih =>
    refine ih (fun operation member => keeps operation (List.mem_cons_of_mem _ member)) ?_
    cases operation with
    | resume i step => exact sound.resume refl i step
    | relieve i change => exact sound.relieve i (keeps _ List.mem_cons_self)
    | consume i => exact sound.consume i

theorem Sound.refuses_resumed (sound : chain.Sound r first) (here : chain.handle? i = some h) :
    h.Refuses .alreadyResumed ↔ h.status ≠ .done ∧ chain.Resumed i := by
  rw [Handle.refuses_iff, Handle.refusal]
  constructor
  · rintro ⟨calls, refusal⟩
    by_cases done : h.status = .done
    · simp [done] at refusal
    · rcases sound.handles i h here with owns | spent
      · obtain ⟨call, -, -, sink, -, state⟩ := owns.last
        simp [Handle.call?, done, state] at calls
      · exact ⟨done, spent.resumed⟩
  · rintro ⟨unfinished, resumed⟩
    rcases sound.handles i h here with owns | spent
    · exact absurd resumed owns.fresh
    · simp [Handle.call?, unfinished, spent.state]

theorem Sound.invokes (sound : chain.Sound r first) (here : chain.handle? i = some h) (unfinished : h.status ≠ .done)
    (fresh : ¬ chain.Resumed i) :
    ∃ last ∈ chain.calls.getLast?, ∃ sink, r last.result.sink sink ∧ h.Invokes last.result.template sink := by
  rcases sound.handles i h here with owns | spent
  · obtain ⟨last, among, -, sink, left, state⟩ := owns.last
    refine ⟨last, among, sink, left, Handle.invokes_iff.mpr ?_⟩
    simp [Handle.call?, unfinished, state]
  · exact absurd spent.resumed fresh

theorem Sound.done (sound : chain.Sound r first) (here : chain.handle? i = some h) (done : h.status = .done) :
    ∃ last ∈ chain.calls.getLast?, last.result.outcome = .ok .done ∧
      ∃ sink, r last.result.sink sink ∧ h.state = some (last.result.template, sink) := by
  rcases sound.handles i h here with owns | spent
  · rw [← done]
    exact owns.last
  · exact absurd done spent.unfinished

/-- Every handle is good for one step of the template. -/
structure OneShot (r : S → S → Prop) (chain : Chain τ S) : Prop where
  /-- Handles that are done say so, however often they are asked. -/
  refuses_done : ∀ i h, chain.handle? i = some h → (h.Refuses .alreadyDone ↔ h.status = .done)
  refuses_resumed : ∀ i h, chain.handle? i = some h →
    (h.Refuses .alreadyResumed ↔ h.status ≠ .done ∧ chain.Resumed i)
  /-- All other handles take the next step, where the last one stopped. -/
  invokes : ∀ i h, chain.handle? i = some h → h.status ≠ .done → ¬ chain.Resumed i →
    ∃ last ∈ chain.calls.getLast?, ∃ sink, r last.result.sink sink ∧ h.Invokes last.result.template sink
  rejected : ∀ i h kind step, chain.handle? i = some h → h.Refuses kind → chain.apply (.resume i step) = chain
  accepted : ∀ i h template sink step, chain.handle? i = some h → h.Invokes template sink →
    (chain.apply (.resume i step)).calls = chain.calls ++ [⟨some i, template, sink, step template sink⟩]
  /-- The state is with the newest handle, if the last step has succeeded, or with none. -/
  owner : ∀ i h, chain.handle? i = some h → h.state.isSome = true →
    i + 1 = chain.count ∧ ∃ last ∈ chain.calls.getLast?, last.result.outcome = .ok h.status
  /-- After a step that is done or has failed there is no other one. -/
  calls : chain.calls.IsChain (Follows r)
  kept : ∀ i h, chain.handle? i = some h → h.status = .done → h.state.isSome = true

theorem Sound.oneShot (sound : chain.Sound r first) : chain.OneShot r where
  refuses_done i h here := by
    rw [Handle.refuses_iff, Handle.refusal]
    by_cases done : h.status = .done <;> simp [Handle.call?, done]
  refuses_resumed i h here := sound.refuses_resumed here
  invokes i h here := sound.invokes here
  rejected i h kind step here refuses := apply_refused here (Handle.refuses_iff.mp refuses).1 step
  accepted i h template sink step here invokes := by
    rw [apply_accepted here (Handle.invokes_iff.mp invokes), add_calls]
    rfl
  owner i h here state := by
    rcases sound.handles i h here with owns | spent
    · obtain ⟨last, among, outcome, -⟩ := owns.last
      exact ⟨owns.newest, last, among, outcome⟩
    · simp [spent.state] at state
  calls := sound.linked
  kept i h here done := by
    obtain ⟨last, -, -, sink, -, state⟩ := sound.done here done
    simp [state]

/-- The handles of a render into a buffer of its own are those of a render into any sink, and each can be asked for the
output: one that is done gives the text that is in the buffer after the last step, as often as it is asked, and any
other one says that it is not done. -/
structure Buffered (chain : Chain τ OutputBuffer) : Prop where
  begins : chain.calls.head?.map Call.sink = some .empty
  oneShot : chain.OneShot Eq
  resume : ∀ i h, chain.handle? i = some h → ∀ kind step,
    (BufferedHandle.mk h kind).resume step =
      ((h.resume step).1.map fun next => ⟨next, kind⟩, ⟨(h.resume step).2, kind⟩)
  complete : ∀ i h, chain.handle? i = some h → h.status = .done →
    ∃ last ∈ chain.calls.getLast?, last.result.outcome = .ok .done ∧ ∀ kind σ,
      (BufferedHandle.mk h kind).text σ = .ok last.result.sink.text ∧
      (BufferedHandle.mk h kind).content σ = .ok (.ofRendered last.result.sink.text kind)
  notDone : ∀ i h, chain.handle? i = some h → ∀ kind σ,
    ((BufferedHandle.mk h kind).text σ = .error (.ofKind (.notDone (h.status.text σ))) ↔ h.status ≠ .done) ∧
    ((BufferedHandle.mk h kind).content σ = .error (.ofKind (.notDone (h.status.text σ))) ↔ h.status ≠ .done)

theorem Sound.buffered {first : Call τ OutputBuffer} {chain : Chain τ OutputBuffer} (sound : chain.Sound Eq first)
    (empty : first.sink = .empty) : chain.Buffered where
  begins := by rw [sound.begins, Option.map_some, empty]
  oneShot := sound.oneShot
  resume i h here kind step := rfl
  complete i h here done := by
    obtain ⟨last, among, outcome, sink, rfl, state⟩ := sound.done here done
    refine ⟨last, among, outcome, fun kind σ => ?_⟩
    simp [BufferedHandle.content, BufferedHandle.text, done, Handle.sink?, state, Except.map]
  notDone i h here kind σ := by
    by_cases done : h.status = .done <;> simp [BufferedHandle.content, BufferedHandle.text, done, Except.map]

/-- Handles are good for one step each, whatever the template does in its steps, and whatever is done with any of the
handles that come from one start. Into a buffer of its own a render is complete when it is done, and its output can be
had from then on. -/
theorem one_shot :
    (∀ {τ S : Type} (step : τ → S → StepResult τ S) (template : τ) (sink : S) (operations : List (Operation τ S)),
      ((start step template sink).run operations).OneShot fun _ _ => True) ∧
    ∀ {τ : Type} (step : τ → OutputBuffer → StepResult τ OutputBuffer) (template : τ)
      (operations : List (Operation τ OutputBuffer)), (∀ i change, .relieve i change ∉ operations) →
      ((start step template .empty).run operations).Buffered := by
  refine ⟨fun {τ S} step template sink operations => ?_, fun {τ} step template operations alone => ?_⟩
  · refine ((sound_start (fun _ => trivial) step template sink).run (fun _ => trivial) fun operation _ => ?_).oneShot
    cases operation with
    | relieve => exact fun _ _ _ => trivial
    | resume | consume => exact trivial
  · refine ((sound_start (fun _ => rfl) step template .empty).run (fun _ => rfl) fun operation member => ?_).buffered rfl
    cases operation with
    | relieve i change => exact absurd member (alone i change)
    | resume | consume => exact trivial

/-- A text of two pieces, one for each step. The first handle is resumed twice, the second one is done. -/
theorem one_shot_pieces :
    let step : Instance → OutputBuffer → StepResult Instance OutputBuffer :=
      Instance.step (RenderContext.ofPrograms [] 1) .empty 1
    let chain := (start step (.chunks ["a", "b"]) .empty).run [.resume 0 step, .resume 0 step, .resume 1 step]
    chain.count = 2 ∧
      (∃ h, chain.handle? 0 = some h ∧ h.Refuses .alreadyResumed) ∧
      ∃ h, chain.handle? 1 = some h ∧ h.Refuses .alreadyDone ∧
        ∀ kind σ, (BufferedHandle.mk h kind).content σ = .ok (.ofRendered "ab" kind) := by
  intro step chain
  have buffered : chain.Buffered := one_shot.2 step (.chunks ["a", "b"]) _ fun i change member => by
    simp only [List.mem_cons, List.not_mem_nil, reduceCtorEq, or_false] at member
  have resumed : chain.Resumed 0 := ⟨⟨some 0, .chunks ["b"], ⟨"a"⟩, ⟨.ok .done, .chunks [], ⟨"ab"⟩⟩⟩, by
    exact List.mem_cons_of_mem _ List.mem_cons_self, rfl⟩
  refine ⟨rfl, ⟨⟨.limited, none⟩, rfl, ?_⟩, ⟨.done, some (.chunks [], ⟨"ab"⟩)⟩, rfl, ?_, fun kind σ => ?_⟩
  · exact (buffered.oneShot.refuses_resumed 0 _ rfl).mpr ⟨by decide, resumed⟩
  · exact (buffered.oneShot.refuses_done 1 _ rfl).mpr rfl
  · obtain ⟨last, among, -, output⟩ := buffered.complete 1 ⟨.done, some (.chunks [], ⟨"ab"⟩)⟩ rfl rfl
    obtain rfl := Option.some.inj among
    exact (output kind σ).2

end Chain

end TemplateEngine
