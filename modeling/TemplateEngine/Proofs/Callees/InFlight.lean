import TemplateEngine.Proofs.Callees.Calls

namespace TemplateEngine

/-- A step that does not fail takes a template from one state to another. -/
inductive Instance.StepsTo (template : Instance) : Status → Instance → Prop
  | step (ctx : RenderContext) (σ : CellStore) (depth : Nat) {S : Type} [Sink S] (s : S) {status : Status}
      (went : (template.step ctx σ depth s).outcome = .ok status) :
      StepsTo template status (template.step ctx σ depth s).template

/-- The events at one call, up to some point: a template is chosen and a callee is made of it, once, and after that
only this callee takes steps, each from where the one before has left it. There is no callee any more when it is
done. -/
inductive Episode (instruction : Instruction) (params injected : Record) (line : Nat) :
    List CallEvent → Option Instance → Prop
  | created {ctx σ callee} (entered : instruction.effect ctx σ params injected = .ok (.enter callee)) :
      Episode instruction params injected line [.resolved line, .created line callee] (some callee)
  | paused {events callee status later} (before : Episode instruction params injected line events (some callee))
      (moves : callee.StepsTo status later) (paused : status ≠ .done) :
      Episode instruction params injected line (events ++ [.resumed line callee]) (some later)
  | finished {events callee later} (before : Episode instruction params injected line events (some callee))
      (moves : callee.StepsTo .done later) :
      Episode instruction params injected line (events ++ [.resumed line callee]) none

/-- The line that a program is at, its callee in flight and the events so far, moving on from the beginning. -/
inductive CallLedger (steps : List Step) (params injected : Record) : Nat → Option Instance → List CallEvent → Prop
  | start : CallLedger steps params injected 0 none []
  | quiet {line step log} (before : CallLedger steps params injected line none log) (here : steps[line]? = some step)
      (quiet : step.instruction.passes = none) : CallLedger steps params injected (line + 1) none log
  | created {line step log ctx σ callee} (before : CallLedger steps params injected line none log)
      (here : steps[line]? = some step)
      (entered : step.instruction.effect ctx σ params injected = .ok (.enter callee)) :
      CallLedger steps params injected line (some callee) (log ++ [.resolved line, .created line callee])
  | paused {line log callee status later} (before : CallLedger steps params injected line (some callee) log)
      (moves : callee.StepsTo status later) (paused : status ≠ .done) :
      CallLedger steps params injected line (some later) (log ++ [.resumed line callee])
  | finished {line log callee later} (before : CallLedger steps params injected line (some callee) log)
      (moves : callee.StepsTo .done later) :
      CallLedger steps params injected (line + 1) none (log ++ [.resumed line callee])

namespace CallLedger

variable {steps : List Step} {params injected : Record} {line : Nat} {callee : Option Instance} {log : List CallEvent}

/-- Where a callee is in flight the current instruction is a call. -/
theorem exists_call {callee : Instance} (ledger : CallLedger steps params injected line (some callee) log) :
    ∃ step, steps[line]? = some step ∧ step.instruction.passes ≠ none := by
  generalize inFlight : some callee = slot at ledger
  induction ledger generalizing callee with
  | start | quiet | finished => cases inFlight
  | created before here entered =>
    exact ⟨_, here, fun quiet => Instruction.effect_ne_enter quiet _ entered⟩
  | paused before moves paused ih => exact ih rfl

theorem line_le (ledger : CallLedger steps params injected line callee log) : line ≤ steps.length := by
  induction ledger with
  | start => exact Nat.zero_le _
  | quiet before here => exact (List.getElem?_eq_some_iff.mp here).1
  | created before here entered ih => exact ih
  | paused before moves paused ih => exact ih
  | finished before moves =>
    obtain ⟨step, here, -⟩ := before.exists_call
    exact (List.getElem?_eq_some_iff.mp here).1

end CallLedger

variable {ctx : RenderContext} {σ : CellStore} {depth : Nat} {S : Type} [Sink S]

/-- A run that began with some events leads on: unless it fails, the line, the callee and the events are in order where
it stops, and at the end of the program if it is done. -/
def LeadsOn (steps : List Step) (frame : Activation) (log : List CallEvent)
    (noted : StepResult Instance S × List CallEvent) : Prop :=
  ∀ status, noted.1.outcome = .ok status → ∃ line callee,
    noted.1.template = .program { frame with todo := steps.drop line } callee ∧
    CallLedger steps frame.params frame.injected line callee (log ++ noted.2) ∧
    (status = .done → line = steps.length ∧ callee = none)

namespace LeadsOn

variable {steps : List Step} {frame : Activation} {log : List CallEvent} {line : Nat} {first : Step} {rest : List Step}

omit [Sink S] in
theorem of_error {noted : StepResult Instance S × List CallEvent} {e : RenderError}
    (fails : noted.1.outcome = .error e) : LeadsOn steps frame log noted := by
  intro status went
  rw [fails] at went
  cases went

omit [Sink S] in
theorem noting {events : List CallEvent} {noted : StepResult Instance S × List CallEvent}
    (later : LeadsOn steps frame (log ++ events) noted) : LeadsOn steps frame log (StepResult.noting events noted) := by
  intro status went
  obtain ⟨line, callee, template, ledger, done⟩ := later status went
  rw [List.append_assoc] at ledger
  exact ⟨line, callee, template, ledger, done⟩

/-- After an instruction that is completed, if going on leads on. -/
theorem next (ledger : CallLedger steps frame.params frame.injected (line + 1) none log)
    (here : steps.drop (line + 1) = rest) {goOn : S → StepResult Instance S × List CallEvent}
    (further : ∀ s, LeadsOn steps frame log (goOn s)) (s : S) :
    LeadsOn steps frame log (frame.nextNoted rest none goOn s) := by
  rw [Activation.nextNoted]
  split
  next last =>
    rintro _ ⟨⟩
    have bound := ledger.line_le
    have empty : steps.drop (line + 1) = [] := here.trans (List.isEmpty_iff.mp last)
    have ended : line + 1 = steps.length := Nat.le_antisymm bound (List.drop_eq_nil_iff.mp empty)
    exact ⟨line + 1, none, by rw [empty], by rwa [List.append_nil], fun _ => ⟨ended, rfl⟩⟩
  next more =>
    split
    · rintro _ ⟨⟩
      exact ⟨line + 1, none, by rw [here], by rwa [List.append_nil], fun done => by cases done⟩
    · exact further _

/-- After a step of the callee. -/
theorem callee {callee : Instance} (ledger : CallLedger steps frame.params frame.injected line (some callee) log)
    (here : steps.drop line = first :: rest) {next : S → StepResult Instance S × List CallEvent}
    (further : ∀ log, CallLedger steps frame.params frame.injected (line + 1) none log →
      ∀ s, LeadsOn steps frame log (next s)) (s : S) :
    LeadsOn steps frame log (frame.calleeNoted (Instance.step ctx σ depth) line first rest next callee s) := by
  have moves {status : Status} (went : (callee.step ctx σ depth s).outcome = .ok status) :
      callee.StepsTo status (callee.step ctx σ depth s).template := .step ctx σ depth s went
  rw [Activation.calleeNoted]
  refine noting ?_
  revert moves
  obtain ⟨outcome, later, after⟩ := callee.step ctx σ depth s
  intro moves
  cases outcome with
  | error e => exact of_error rfl
  | ok status =>
    cases status with
    | done => exact further _ (ledger.finished (moves rfl)) after
    | limited | detached c =>
      rintro _ ⟨⟩
      refine ⟨line, some later, by rw [here], ?_, fun done => by cases done⟩
      rw [List.append_nil]
      exact ledger.paused (moves rfl) (by simp)

end LeadsOn

/-- Wherever a program stops without an error, its line, its callee and the events at its calls are in order if they
have been where it began. -/
theorem Activation.runNoted_leadsOn {steps : List Step} {frame : Activation} {line : Nat} {callee : Option Instance}
    {log : List CallEvent} (ledger : CallLedger steps frame.params frame.injected line callee log) {todo : List Step}
    (here : steps.drop line = todo) (s : S) :
    LeadsOn steps frame log (frame.runNoted ctx σ (Instance.step ctx σ depth) line todo callee s) := by
  -- what is left to run decides; the ledger goes along with the line, the callee and the events
  induction todo generalizing line callee log s with
  | nil =>
    have ended : line = steps.length := Nat.le_antisymm ledger.line_le (List.drop_eq_nil_iff.mp here)
    have idle : callee = none := by
      cases callee with
      | none => rfl
      | some callee =>
        obtain ⟨step, current, -⟩ := ledger.exists_call
        exact absurd (List.getElem?_eq_some_iff.mp current).1 (by omega)
    rintro _ ⟨⟩
    refine ⟨line, callee, by rw [here]; rfl, ?_, fun _ => ⟨ended, idle⟩⟩
    rwa [runNoted, List.append_nil]
  | cons first rest ih =>
    have current : steps[line]? = some first := by rw [← List.head?_drop, here, List.head?_cons]
    have behind : steps.drop (line + 1) = rest := by rw [← List.tail_drop, here, List.tail_cons]
    have next (log : List CallEvent)
        (ledger : CallLedger steps frame.params frame.injected (line + 1) none log) (s : S) :
        LeadsOn steps frame log
          (frame.nextNoted rest none (frame.runNoted ctx σ (Instance.step ctx σ depth) (line + 1) rest none) s) :=
      .next ledger behind (fun s => ih ledger behind s) s
    cases callee with
    | some callee =>
      -- a callee is in flight at a call only, so the instruction at hand does look at it
      obtain ⟨step, here', calling⟩ := ledger.exists_call
      obtain rfl : first = step := Option.some.inj (current.symm.trans here')
      simp only [runNoted, Step.inFlight_of_calls (Instruction.calls_iff.mpr calling)]
      exact .callee ledger here next s
    | none =>
      simp only [runNoted, Step.inFlight_none]
      refine .noting ?_
      cases works : first.instruction.effect ctx σ frame.params frame.injected with
      | error obstacle =>
        cases obstacle with
        | fails e => exact .of_error rfl
        | awaits c =>
          -- a call that waits has not chosen a template, so nothing is noted and the next step begins as this one did
          rw [Instruction.resolves_of_awaits works]
          rintro _ ⟨⟩
          exact ⟨line, none, by rw [here], by simpa using ledger, fun done => by cases done⟩
      | ok effect =>
        by_cases quiet : first.instruction.passes = none
        · rw [Instruction.resolves_of_quiet quiet]
          have quietly := next (log ++ []) (by rw [List.append_nil]; exact ledger.quiet current quiet)
          cases effect with
          | enter callee => exact absurd works (Instruction.effect_ne_enter quiet callee)
          | silent => exact quietly s
          | write text | writeMessage text =>
            dsimp only
            obtain ⟨answer, after⟩ := Sink.append text s
            cases answer with
            | error e => exact .of_error rfl
            | ok => exact quietly after
        · obtain ⟨callee, rfl⟩ := Instruction.effect_eq_enter quiet works
          rw [Instruction.resolves_of_enter works]
          refine .noting (.callee ?_ here next s)
          rw [List.append_assoc]
          exact ledger.created current works

namespace CallEvent

def line : CallEvent → Nat
  | resolved line => line
  | created line _ => line
  | resumed line _ => line

def isResolution : CallEvent → Bool
  | resolved _ => true
  | _ => false

def isCreation : CallEvent → Bool
  | created _ _ => true
  | _ => false

/-- The events at the call in a line. -/
def eventsAt (log : List CallEvent) (line : Nat) : List CallEvent := log.filter fun event => event.line = line

variable {log events : List CallEvent} {line : Nat}

theorem eventsAt_append (here : ∀ event ∈ events, event.line = line) :
    eventsAt (log ++ events) line = eventsAt log line ++ events := by
  rw [eventsAt, List.filter_append, List.filter_eq_self.mpr fun event member => decide_eq_true (here event member)]
  rfl

theorem eventsAt_append_of_ne (here : ∀ event ∈ events, event.line = line) {other : Nat} (apart : other ≠ line) :
    eventsAt (log ++ events) other = eventsAt log other := by
  have nothing : events.filter (fun event => event.line = other) = [] :=
    List.filter_eq_nil_iff.mpr fun event member same => apart ((of_decide_eq_true same).symm.trans (here event member))
  rw [eventsAt, List.filter_append, nothing, List.append_nil]
  rfl

end CallEvent

open CallEvent (eventsAt)

/-- At one call a template is chosen once and a callee is made once, however many steps the callee takes. -/
theorem Episode.once {instruction : Instruction} {params injected : Record} {line : Nat} {events : List CallEvent}
    {callee : Option Instance} (episode : Episode instruction params injected line events callee) :
    events.countP CallEvent.isResolution = 1 ∧ events.countP CallEvent.isCreation = 1 := by
  induction episode with
  | created => exact ⟨rfl, rfl⟩
  | paused _ _ _ ih | finished _ _ ih => rwa [List.countP_append, List.countP_append]

/-- The line that a program is at, its callee in flight and the events at its calls, in order. -/
structure CallsInOrder (steps : List Step) (params injected : Record) (line : Nat) (callee : Option Instance)
    (log : List CallEvent) : Prop where
  bound : line ≤ steps.length
  /-- A callee is in flight only at a call, and it is the one that this call made. -/
  current : ∀ inFlight, callee = some inFlight → ∃ step, steps[line]? = some step ∧ step.instruction.passes ≠ none ∧
    Episode step.instruction params injected line (eventsAt log line) (some inFlight)
  idle : callee = none → eventsAt log line = []
  /-- The calls behind have run the callee that they made to its end. -/
  completed : ∀ earlier step, earlier < line → steps[earlier]? = some step → step.instruction.passes ≠ none →
    Episode step.instruction params injected earlier (eventsAt log earlier) none ∧
      (eventsAt log earlier).countP CallEvent.isResolution = 1 ∧ (eventsAt log earlier).countP CallEvent.isCreation = 1
  others : ∀ other step, steps[other]? = some step → step.instruction.passes = none → eventsAt log other = []
  ahead : ∀ later, line < later → eventsAt log later = []
  ascending : (log.map CallEvent.line).Pairwise (· ≤ ·)

variable {steps : List Step} {params injected : Record} {line : Nat} {callee : Option Instance} {log : List CallEvent}

/-- Events are in ascending order of lines if they come after those at the lines before. -/
theorem CallsInOrder.append (order : CallsInOrder steps params injected line callee log) {events : List CallEvent}
    (here : ∀ event ∈ events, event.line = line) : ((log ++ events).map CallEvent.line).Pairwise (· ≤ ·) := by
  have reached {event : CallEvent} (member : event ∈ log) : event.line ≤ line := Nat.le_of_not_lt fun beyond => by
    have listed : event ∈ eventsAt log event.line := List.mem_filter.mpr ⟨member, decide_eq_true rfl⟩
    rw [order.ahead _ beyond] at listed
    cases listed
  have lines : events.map CallEvent.line = List.replicate events.length line :=
    List.eq_replicate_iff.mpr ⟨List.length_map _, fun l member => by
      obtain ⟨event, listed, rfl⟩ := List.mem_map.mp member
      exact here event listed⟩
  rw [List.map_append, List.pairwise_append, lines]
  refine ⟨order.ascending, List.pairwise_replicate.mpr (.inr (Nat.le_refl line)), fun l before l' after => ?_⟩
  obtain ⟨event, member, rfl⟩ := List.mem_map.mp before
  rw [List.eq_of_mem_replicate after]
  exact reached member

theorem CallsInOrder.others_append (order : CallsInOrder steps params injected line callee log) {step : Step}
    (current : steps[line]? = some step) (calls : step.instruction.passes ≠ none) {events : List CallEvent}
    (here : ∀ event ∈ events, event.line = line) (other : Nat) (step' : Step) (here' : steps[other]? = some step')
    (quiet : step'.instruction.passes = none) : eventsAt (log ++ events) other = [] := by
  have apart : other ≠ line := by
    rintro rfl
    exact calls (Option.some.inj (current.symm.trans here') ▸ quiet)
  rw [CallEvent.eventsAt_append_of_ne here apart]
  exact order.others other step' here' quiet

/-- More events at the call in the current line, after which there is a callee in flight. -/
theorem CallsInOrder.goOn (order : CallsInOrder steps params injected line callee log) {step : Step}
    (current : steps[line]? = some step) (calls : step.instruction.passes ≠ none) {events : List CallEvent}
    (here : ∀ event ∈ events, event.line = line) {later : Instance}
    (episode : Episode step.instruction params injected line (eventsAt log line ++ events) (some later)) :
    CallsInOrder steps params injected line (some later) (log ++ events) where
  bound := order.bound
  current := by
    rintro _ ⟨⟩
    exact ⟨step, current, calls, by rwa [CallEvent.eventsAt_append here]⟩
  idle := fun none => by cases none
  completed := fun earlier step' before here' calls' => by
    rw [CallEvent.eventsAt_append_of_ne here (Nat.ne_of_lt before)]
    exact order.completed earlier step' before here' calls'
  others := order.others_append current calls here
  ahead := fun later beyond => by
    rw [CallEvent.eventsAt_append_of_ne here (Nat.ne_of_gt beyond)]
    exact order.ahead later beyond
  ascending := order.append here

/-- The last events at the call in the current line. -/
theorem CallsInOrder.finish (order : CallsInOrder steps params injected line callee log) {step : Step}
    (current : steps[line]? = some step) (calls : step.instruction.passes ≠ none) {events : List CallEvent}
    (here : ∀ event ∈ events, event.line = line)
    (episode : Episode step.instruction params injected line (eventsAt log line ++ events) none) :
    CallsInOrder steps params injected (line + 1) none (log ++ events) where
  bound := (List.getElem?_eq_some_iff.mp current).1
  current := fun _ some => by cases some
  idle := fun _ => by
    rw [CallEvent.eventsAt_append_of_ne here (Nat.succ_ne_self line)]
    exact order.ahead _ (Nat.lt_succ_self line)
  completed := fun earlier step' before here' calls' => by
    rcases Nat.lt_succ_iff_lt_or_eq.mp before with before | rfl
    · rw [CallEvent.eventsAt_append_of_ne here (Nat.ne_of_lt before)]
      exact order.completed earlier step' before here' calls'
    · obtain rfl := Option.some.inj (current.symm.trans here')
      rw [CallEvent.eventsAt_append here]
      exact ⟨episode, episode.once⟩
  others := order.others_append current calls here
  ahead := fun later beyond => by
    rw [CallEvent.eventsAt_append_of_ne here (Nat.ne_of_gt (Nat.lt_of_succ_lt beyond))]
    exact order.ahead later (Nat.lt_of_succ_lt beyond)
  ascending := order.append here

theorem CallLedger.inOrder (ledger : CallLedger steps params injected line callee log) :
    CallsInOrder steps params injected line callee log := by
  induction ledger with
  | start => exact ⟨Nat.zero_le _, by simp, fun _ => rfl, by simp, fun _ _ _ _ => rfl, fun _ _ => rfl, .nil⟩
  | @quiet line step log before here quiet ih =>
    refine ⟨(before.quiet here quiet).line_le, by simp, fun _ => ih.ahead _ (Nat.lt_succ_self line), ?_, ih.others,
      fun later beyond => ih.ahead later (Nat.lt_of_succ_lt beyond), ih.ascending⟩
    intro earlier step' before' here' calls
    have apart : earlier ≠ line := by
      rintro rfl
      exact calls (Option.some.inj (here.symm.trans here') ▸ quiet)
    exact ih.completed earlier step' (by omega) here' calls
  | created before here entered ih =>
    have calls := fun quiet => Instruction.effect_ne_enter quiet _ entered
    refine ih.goOn here calls (by simp [CallEvent.line]) ?_
    rw [ih.idle rfl]
    exact .created entered
  | paused before moves paused ih =>
    obtain ⟨step, here, calls, episode⟩ := ih.current _ rfl
    exact ih.goOn here calls (by simp [CallEvent.line]) (episode.paused moves paused)
  | finished before moves ih =>
    obtain ⟨step, here, calls, episode⟩ := ih.current _ rfl
    exact ih.finish here calls (by simp [CallEvent.line]) (episode.finished moves)

namespace Program

/-- An instance of a program at a line. -/
def instanceAt (p : Program) (params injected : Record) (line : Nat) (callee : Option Instance) : Instance :=
  .program ⟨p.name, p.steps.drop line, params, injected⟩ callee

/-- An instance of a program after it has been made and then rendered, step by step, into any sinks and in any
environments, with no error so far; and the events at its calls. -/
inductive Session (p : Program) (params injected : Record) : Instance → List CallEvent → Prop
  | created {entry : TemplateEntry} (body : entry.body = .program p) :
      Session p params injected (entry.start params injected) []
  | rendered {template log} (before : Session p params injected template log) (ctx : RenderContext) (σ : CellStore)
      (depth : Nat) {S : Type} [Sink S] (s : S) {status : Status}
      (went : (template.step ctx σ depth s).outcome = .ok status) :
      Session p params injected (template.step ctx σ depth s).template
        (log ++ template.callEvents ctx σ p.steps.length depth s)

variable {p : Program}

/-- One step of an instance of a program. -/
theorem step_instanceAt (ledger : CallLedger p.steps params injected line callee log) {s : S} {status : Status}
    (went : ((p.instanceAt params injected line callee).step ctx σ depth s).outcome = .ok status) :
    ∃ line' callee',
      ((p.instanceAt params injected line callee).step ctx σ depth s).template =
        p.instanceAt params injected line' callee' ∧
      CallLedger p.steps params injected line' callee'
        (log ++ (p.instanceAt params injected line callee).callEvents ctx σ p.steps.length depth s) ∧
      (status = .done → line' = p.steps.length ∧ callee' = none) := by
  cases depth with
  | zero => cases went
  | succ depth =>
    have at_line : p.steps.length - (p.steps.drop line).length = line := by
      have bound := ledger.line_le
      rw [List.length_drop]
      omega
    let frame : Activation := ⟨p.name, p.steps.drop line, params, injected⟩
    have leadsOn : LeadsOn p.steps frame log
        (frame.runNoted ctx σ (Instance.step ctx σ depth) line (p.steps.drop line) callee s) :=
      Activation.runNoted_leadsOn ledger rfl s
    rw [instanceAt, Instance.step] at went
    rw [instanceAt, Instance.step, Instance.callEvents, at_line]
    rw [← Activation.runNoted_fst ctx σ _ _ line] at went ⊢
    exact leadsOn status went

theorem Session.ledger {template : Instance} (session : p.Session params injected template log) :
    ∃ line callee, template = p.instanceAt params injected line callee ∧
      CallLedger p.steps params injected line callee log := by
  induction session with
  | created body =>
    refine ⟨0, none, ?_, .start⟩
    rw [TemplateEntry.start, body, instanceAt, List.drop_zero]
  | rendered before ctx σ depth s went ih =>
    obtain ⟨line, callee, rfl, ledger⟩ := ih
    obtain ⟨line', callee', template, ledger', -⟩ := step_instanceAt ledger went
    exact ⟨line', callee', template, ledger'⟩

/-- In every state of a program, from its making on, the callee in flight is the one that the current call made, and
each call behind has chosen a template and made a callee once and run it to its end. A program that is done is at its
end, without a callee in flight. -/
theorem Session.callee_in_flight {template : Instance} (session : p.Session params injected template log) :
    ∃ line callee, template = p.instanceAt params injected line callee ∧
      CallsInOrder p.steps params injected line callee log ∧
      ∀ (ctx : RenderContext) (σ : CellStore) (depth : Nat) (S : Type) [Sink S] (s : S),
        (template.step ctx σ depth s).outcome = .ok .done →
          (template.step ctx σ depth s).template = p.instanceAt params injected p.steps.length none ∧
          CallsInOrder p.steps params injected p.steps.length none
            (log ++ template.callEvents ctx σ p.steps.length depth s) := by
  obtain ⟨line, callee, rfl, ledger⟩ := session.ledger
  refine ⟨line, callee, rfl, ledger.inOrder, fun ctx σ depth S _ s went => ?_⟩
  obtain ⟨line', callee', template, ledger', done⟩ := step_instanceAt ledger went
  obtain ⟨rfl, rfl⟩ := done rfl
  exact ⟨template, ledger'.inOrder⟩

/-- A list of two names. -/
def rosterProgram : Program := ⟨"roster", [⟨.call "name" .all, none⟩, ⟨.text ", ", none⟩, ⟨.call "name" .all, none⟩]⟩

/-- The first call pauses for the name and goes on with the callee that it has; in the end each of the two calls has
made one callee. -/
theorem callee_in_flight_roster :
    let name : Program := ⟨"name", [⟨.text "Dr. ", none⟩, ⟨.print (.param "name") ["|escapeHtml"], none⟩]⟩
    let ctx := RenderContext.ofPrograms [rosterProgram, name] standardCallDepth
    let params : Record := OrderedMap.ofList [("name", .deferred ⟨0⟩)]
    let σ (state : CellState) : CellStore := ⟨[⟨"name", state⟩]⟩
    let known := σ (.completed (.string "Ann"))
    let made := (⟨"roster", default, .program rosterProgram⟩ : TemplateEntry).start params .empty
    let first := made.step ctx (σ .pending) 2 OutputBuffer.empty
    let second := first.template.step ctx known 2 first.sink
    let log := made.callEvents ctx (σ .pending) 3 2 OutputBuffer.empty ++
      first.template.callEvents ctx known 3 2 first.sink
    first.outcome = .ok (.detached ⟨0⟩) ∧ second.outcome = .ok .done ∧ second.sink.text = "Dr. Ann, Dr. Ann" ∧
      second.template = rosterProgram.instanceAt params .empty 3 none ∧ log.map CallEvent.line = [0, 0, 0, 0, 2, 2, 2] ∧
      (eventsAt log 0).countP CallEvent.isCreation = 1 ∧ (eventsAt log 2).countP CallEvent.isCreation = 1 := by
  intro name ctx params σ known made first second log
  have went {x : Except RenderError Status} {status : Status} (shown : x.toOption = some status) : x = .ok status := by
    cases x with
    | error => cases shown
    | ok => exact congrArg _ (Option.some.inj shown)
  have pauses : first.outcome = .ok (.detached ⟨0⟩) := went (by decide +kernel)
  have ends : second.outcome = .ok .done := went (by decide +kernel)
  have session := ((Session.created rfl).rendered ctx (σ .pending) 2 OutputBuffer.empty pauses :
    rosterProgram.Session params .empty first.template _)
  obtain ⟨-, -, -, -, done⟩ := session.callee_in_flight
  obtain ⟨template, order⟩ := done ctx known 2 _ first.sink ends
  have calls (data : CallData) : Instruction.passes (.call "name" data) ≠ none := by simp [Instruction.passes]
  exact ⟨pauses, ends, by decide +kernel, template, by decide +kernel,
    (order.completed 0 _ (by decide) rfl (calls _)).2.2, (order.completed 2 _ (by decide) rfl (calls _)).2.2⟩

end Program

end TemplateEngine
