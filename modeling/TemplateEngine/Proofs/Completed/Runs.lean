import TemplateEngine.Proofs.Completed.Turns
import TemplateEngine.Proofs.Errors.WholeOutputs
import TemplateEngine.Proofs.Injected.Noninterference

namespace TemplateEngine

variable {base σ σ' : CellStore} {ctx ctx' : RenderContext} {S : Type}

/-- Results that are the same, but for completed cells that are replaced in what is left. -/
structure StepResult.Unfolds (base : CellStore) (result result' : StepResult Instance S) : Prop where
  outcome : result'.outcome = result.outcome
  template : result.template.Unfolds base result'.template
  sink : result'.sink = result.sink

theorem StepResult.Unfolds.resumable {result result' : StepResult Instance S} (results : result.Unfolds base result') :
    result'.resumable = result.resumable := by
  rw [StepResult.resumable, StepResult.resumable, results.outcome]

/-- Rounds that are the same, but for completed cells that are replaced in the values that they supply. -/
structure Round.Unfolds (base : CellStore) (round round' : Round S) : Prop where
  completions : List.Forall₂ (Completion.Unfolds base) round.completions round'.completions
  relieve : round'.relieve = round.relieve

structure RenderState.Unfolds (base : CellStore) (x x' : RenderState S) : Prop where
  store : base.Unfolds x.store x'.store
  template : x.template.Unfolds base x'.template
  sink : x'.sink = x.sink

theorem RenderState.Unfolds.prepare {x x' : RenderState S} (states : x.Unfolds base x') {round round' : Round S}
    (rounds : round.Unfolds base round') :
    (x.prepare round).Unfolds base (x'.prepare round') where
  store := states.store.applyAll rounds.completions
  template := states.template
  sink := by rw [RenderState.prepare, RenderState.prepare, rounds.relieve, states.sink]

variable [Sink S]

theorem Turn.Unfolds.carryOut {turn turn' : Turn} (turns : turn.Unfolds base turn')
    {goOn goOn' : Instance → S → StepResult Instance S}
    (later : ∀ output pace next next', turn = .act output pace next → (pace = .asking ∨ pace = .onward) →
      next.Unfolds base next' → ∀ s, (goOn next s).Unfolds base (goOn' next' s)) (s : S) :
    (turn.carryOut goOn s).Unfolds base (turn'.carryOut goOn' s) := by
  cases turns with
  | await c templates => exact ⟨rfl, templates, rfl⟩
  | fail errors templates => exact ⟨congrArg Except.error errors, templates, rfl⟩
  | @act output output' outputs pace next next' templates =>
    have follow (s : S) : (pace.follow goOn next s).Unfolds base (pace.follow goOn' next' s) := by
      cases pace with
      | finished | resting => exact ⟨rfl, templates, rfl⟩
      | onward => exact later output .onward next next' rfl (.inr rfl) templates s
      | asking =>
        simp only [Pace.follow]
        rcases Sink.isFull s with ⟨_ | _, s⟩
        · exact later output .asking next next' rfl (.inl rfl) templates s
        · exact ⟨rfl, templates, rfl⟩
    cases outputs with
    | none => exact follow s
    | some same =>
      simp only [Turn.carryOut, same.text]
      rcases Sink.append _ s with ⟨e | _, s⟩
      · exact ⟨by rw [same.refusal], same.retry, rfl⟩
      · exact follow s

namespace Instance.Unfolds

variable {template template' : Instance}

theorem step (templates : template.Unfolds base template') (contexts : ctx.Unfolds base ctx')
    (observes : ctx.Observes base) (stores : base.Matches σ σ') (depth : Nat) (s : S) :
    (template.step ctx σ depth s).Unfolds base (template'.step ctx' σ' depth s) := by
  -- A step of the first template ends, and the second one keeps up with it turn by turn.
  induction template using (Instance.follows_wf ctx σ depth).induction generalizing template' s with
  | _ template ih =>
    rw [step_eq_carryOut, step_eq_carryOut]
    exact (templates.turn contexts observes stores depth).carryOut
      (fun output pace next next' turn goesOn related s => ih next ⟨output, pace, turn, goesOn⟩ related s) s

theorem advance (templates : template.Unfolds base template') (contexts : ctx.Unfolds base ctx')
    (observes : ctx.Observes base) (stores : base.Matches σ σ') (s : S) :
    (template.advance ctx σ s).Unfolds base (template'.advance ctx' σ' s) := by
  rw [Instance.advance, Instance.advance, contexts.callDepth]
  exact templates.step contexts observes stores ctx.callDepth s

theorem noted (templates : template.Unfolds base template') (contexts : ctx.Unfolds base ctx')
    (observes : ctx.Observes base) (stores : base.Matches σ σ') (depth turns : Nat) (s : Noting S) :
    (template.noted ctx σ depth turns s).Unfolds base (template'.noted ctx' σ' depth turns s) := by
  induction turns generalizing template template' s with
  | zero => exact ⟨rfl, templates, rfl⟩
  | succ turns ih =>
    rw [Instance.noted, Instance.noted, templates.selections contexts observes stores]
    exact (templates.turn contexts observes stores depth).carryOut (fun _ _ _ _ _ _ related s => ih related s) _

end Instance.Unfolds

namespace RenderState

/-- Two steps with the same result, the frames of an error included, the same requests of the sink and the same
selections of delegates. -/
structure SeenAlike (ctx ctx' : RenderContext) (x x' : RenderState S) : Prop where
  transcript : x'.transcript ctx' = x.transcript ctx
  selections : ∀ turns, x'.selections ctx' turns = x.selections ctx turns

variable {x x' : RenderState S}

theorem Unfolds.result (states : x.Unfolds base x') (contexts : ctx.Unfolds base ctx') (observes : ctx.Observes base)
    (acyclic : x.store.Acyclic) : (x.result ctx).Unfolds base (x'.result ctx') := by
  rw [RenderState.result, RenderState.result, states.sink]
  exact states.template.advance contexts observes ⟨states.store, acyclic⟩ x.sink

theorem Unfolds.seenAlike (states : x.Unfolds base x') (contexts : ctx.Unfolds base ctx')
    (observes : ctx.Observes base) (acyclic : x.store.Acyclic) : SeenAlike ctx ctx' x x' where
  transcript := by
    have results := states.result contexts observes acyclic
    have watched : (x.watched ctx).Unfolds base (x'.watched ctx') := by
      rw [RenderState.watched, RenderState.watched, states.sink]
      exact states.template.advance contexts observes ⟨states.store, acyclic⟩ (Recorder.watch x.sink)
    rw [RenderState.transcript, RenderState.transcript, results.outcome, events, events, watched.sink]
  selections turns := by
    rw [RenderState.selections, RenderState.selections, states.sink, contexts.callDepth]
    have noted := states.template.noted contexts observes ⟨states.store, acyclic⟩ ctx.callDepth turns ⟨x.sink, []⟩
    exact congrArg Noting.selected noted.sink

/-- A run does not change when completed cells are replaced. -/
theorem Unfolds.run (states : x.Unfolds base x') (contexts : ctx.Unfolds base ctx') (observes : ctx.Observes base)
    {rounds rounds' : List (Round S)} (each : List.Forall₂ (Round.Unfolds base) rounds rounds')
    (acyclic : ∀ y ∈ x.run ctx rounds, y.store.Acyclic) :
    List.Forall₂ (SeenAlike ctx ctx') (x.run ctx rounds) (x'.run ctx' rounds') := by
  induction each generalizing x x' with
  | nil => exact .nil
  | cons first later ih =>
    rw [run_cons] at acyclic ⊢
    rw [run_cons]
    have prepared := states.prepare first
    have here := acyclic _ List.mem_cons_self
    have results := prepared.result contexts observes here
    refine .cons (prepared.seenAlike contexts observes here) ?_
    rw [results.resumable]
    split
    next resumable =>
      rw [if_pos resumable] at acyclic
      exact ih ⟨prepared.store, results.template, results.sink⟩ fun y member =>
        acyclic y (List.mem_cons_of_mem _ member)
    · exact .nil

end RenderState

/-- A completed cell renders like its value. Cells that are complete from the start may be replaced by their values, any
of them and at any depth: in the parameters and the injected values, in the literals of all templates, in the values of
other cells and in those that are supplied later on. No step comes to another result or asks anything else of the sink,
and the same delegates are selected. This is for functions and directives that do not look into values, and as long as
no value contains itself, since such a value has no text. -/
theorem RenderContext.completed_cells_render_like_values (contexts : ctx.Unfolds σ ctx') (observes : ctx.Observes σ)
    {entry entry' : TemplateEntry} (entries : entry.Unfolds σ entry') {params injected params' injected' : Record}
    (given : Record.Corresponds (Slot.Unfolds σ) params params')
    (common : Record.Corresponds (Slot.Unfolds σ) injected injected') (stores : σ.Unfolds σ σ') (s : S)
    {rounds rounds' : List (Round S)} (each : List.Forall₂ (Round.Unfolds σ) rounds rounds')
    (acyclic : ∀ x ∈ RenderState.run ctx ⟨σ, entry.start params injected, s⟩ rounds, x.store.Acyclic) :
    List.Forall₂ (RenderState.SeenAlike ctx ctx') (RenderState.run ctx ⟨σ, entry.start params injected, s⟩ rounds)
      (RenderState.run ctx' ⟨σ', entry'.start params' injected', s⟩ rounds') := by
  have start : RenderState.Unfolds σ ⟨σ, entry.start params injected, s⟩ ⟨σ', entry'.start params' injected', s⟩ :=
    ⟨stores, entries.start given common, rfl⟩
  exact start.run contexts observes each acyclic

/-- A letter that hands its parameters on to a note. -/
def noteLetter (variant : Slot) : TemplateEntry :=
  ⟨"letter", default, .program ⟨"letter", [⟨.print (.param "to") [], none⟩,
    ⟨.delegateCall ⟨"note", .literal variant, false, .all, ["|escapeHtml"]⟩, none⟩]⟩⟩

/-- Cells that hold a name, null, and a list with the name, and one more. -/
def noteCells (name : Slot) (all : CellState) : CellStore :=
  ⟨[⟨"name", .completed (.string "Ann")⟩, ⟨"variant", .completed .null⟩, ⟨"names", .completed (.list [name])⟩,
    ⟨"all", all⟩]⟩

theorem noteCells_acyclic {all : CellState} (earlier : ∀ v, all = .completed v → ∀ d ∈ v.cells, d.index < 3) :
    (noteCells (.deferred ⟨0⟩) all).Acyclic := by
  refine CellStore.acyclic_of_lt CellId.index ?_
  rintro ⟨_ | _ | _ | _ | _⟩ d ⟨v, completed, member⟩
  · cases completed
    cases member
  · cases completed
    cases member
  · cases completed
    obtain rfl := List.mem_singleton.mp member
    exact Nat.zero_lt_two
  · exact earlier v completed d member
  · cases completed

/-- The letter with cells for the variant and the names, and with null and the names themselves. -/
theorem completed_cells_render_like_values_note :
    let ann : Slot := .ready (.string "Ann")
    let run := RenderState.run noteContext
      ⟨noteCells (.deferred ⟨0⟩) .pending, (noteLetter (.deferred ⟨1⟩)).start
        (OrderedMap.ofList [("to", .deferred ⟨0⟩), ("name", .deferred ⟨3⟩)]) .empty, OutputBuffer.empty⟩
      [⟨[], id⟩, ⟨[.set ⟨3⟩ (.list [.deferred ⟨2⟩, .ready (.integer 3)])], id⟩]
    let run' := RenderState.run noteContext
      ⟨noteCells ann .pending, (noteLetter (.ready .null)).start
        (OrderedMap.ofList [("to", ann), ("name", .deferred ⟨3⟩)]) .empty, OutputBuffer.empty⟩
      [⟨[], id⟩, ⟨[.set ⟨3⟩ (.list [.ready (.list [ann]), .ready (.integer 3)])], id⟩]
    (run.map fun x => ((x.result noteContext).outcome.toOption, (x.result noteContext).sink.text,
        x.selections noteContext 9)) =
      [(some (.detached ⟨3⟩), "Ann", [⟨"note", "", some "note"⟩]), (some .done, "Ann&lt;[[Ann], 3]&gt;", [])] ∧
      List.Forall₂ (RenderState.SeenAlike noteContext noteContext) run run' := by
  intro ann run run'
  let σ := noteCells (.deferred ⟨0⟩) .pending
  have named : Slot.Unfolds σ (.deferred ⟨0⟩) ann := .completed rfl (.same _)
  have names : Slot.Unfolds σ (.deferred ⟨2⟩) (.ready (.list [ann])) := .completed rfl (.list (.cons named .nil))
  have letters : (noteLetter (.deferred ⟨1⟩)).Unfolds σ (noteLetter (.ready .null)) := by
    refine ⟨rfl, rfl, _, _, rfl, rfl, rfl, .cons ⟨.same _, rfl⟩ (.cons ⟨.delegateCall ?_, rfl⟩ .nil)⟩
    exact ⟨rfl, .literal (.completed rfl (.same _)), rfl, .all, rfl⟩
  have given : Record.Corresponds (Slot.Unfolds σ) (OrderedMap.ofList [("to", .deferred ⟨0⟩), ("name", .deferred ⟨3⟩)])
      (OrderedMap.ofList [("to", ann), ("name", .deferred ⟨3⟩)]) :=
    .ofList (.same _) (.cons ⟨rfl, named⟩ (.cons ⟨rfl, .same _⟩ .nil))
  have stores : σ.Unfolds σ (noteCells ann .pending) := by
    refine ⟨.refl σ, rfl, ?_, ?_⟩
    · rintro ⟨_ | _ | _ | _ | _⟩ <;> rfl
    · rintro ⟨_ | _ | _ | _ | _⟩
      · exact .completed (.same _)
      · exact .completed (.same _)
      · exact .completed (.list (.cons named .nil))
      · exact .pending
      · exact .pending
  have supplied : Completion.Unfolds σ (.set ⟨3⟩ (.list [.deferred ⟨2⟩, .ready (.integer 3)]))
      (.set ⟨3⟩ (.list [.ready (.list [ann]), .ready (.integer 3)])) :=
    .set ⟨3⟩ (.list (.cons names (.cons (.same _) .nil)))
  refine ⟨by decide, ?_⟩
  refine RenderContext.completed_cells_render_like_values noteContext_onlyPrograms.unfolds
    ⟨fun name function found => (by cases found), DirectiveTable.builtin_observes⟩ letters given (fun _ => .same _)
    stores OutputBuffer.empty (.cons ⟨.nil, rfl⟩ (.cons ⟨.cons supplied .nil, rfl⟩ .nil)) ?_
  have known : run.map RenderState.store =
      [noteCells (.deferred ⟨0⟩) .pending,
        noteCells (.deferred ⟨0⟩) (.completed (.list [.deferred ⟨2⟩, .ready (.integer 3)]))] := rfl
  intro x member
  have among := List.mem_map_of_mem (f := RenderState.store) member
  rw [known] at among
  simp only [List.mem_cons, List.not_mem_nil, or_false] at among
  rcases among with store | store
  · rw [store]
    exact noteCells_acyclic (by rintro v ⟨⟩)
  · rw [store]
    refine noteCells_acyclic ?_
    rintro v ⟨⟩ d member
    obtain rfl := List.mem_singleton.mp member
    exact Nat.lt_succ_self 2

end TemplateEngine
