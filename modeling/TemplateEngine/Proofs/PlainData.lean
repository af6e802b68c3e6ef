import TemplateEngine.Proofs.Backpressure
import TemplateEngine.Proofs.Conversion
import TemplateEngine.Proofs.Detach
import TemplateEngine.Proofs.Reached

namespace TemplateEngine

/-- A slot that can be read at once: a value, or a cell that is completed, be it with a failure. -/
def Slot.Known (σ : CellStore) (slot : Slot) : Prop := slot.awaits σ = none

theorem Slot.known_null (σ : CellStore) : Slot.null.Known σ := rfl

namespace RenderState

variable {ctx : RenderContext} {σ : CellStore} {root : TemplateEntry} {S : Type} [Sink S]

/-- A program whose slots are known reads all that its current instruction asks for. -/
theorem not_detached (only : ctx.ReachesOnly (Slot.Known σ) root) {x : RenderState S} (order : σ.Precedes x.store)
    (made : x.template.MadeOf (.reached ctx (Slot.Known σ) root)) (c : CellId) :
    (x.result ctx).outcome ≠ .ok (.detached c) := by
  intro detached
  have course := Instance.course_step ctx x.store ctx.callDepth x.template x.sink
  have left := course.madeOf (only.hereditary (Slot.known_null σ)) made
  obtain ⟨frame, first, rest, innermost, todo, -, found⟩ := (heldUp detached).first
  obtain ⟨ref, reads, waiting⟩ := List.exists_of_findSome?_eq_some found
  have slots := (left.innermost innermost).slots
  have literal := (slots.literals first (by simp [todo])).reads ref reads
  have known : (ref.slot frame.params frame.injected).awaits σ = none :=
    literal.slot (Slot.known_null σ) slots.params slots.injected
  rw [Slot.awaits_later order known] at waiting
  cases waiting

end RenderState

namespace PreparedRender

/-- A render that no pending cell ever holds up, whichever sink it is started into, whatever the caller does between
its steps, and which is done at once where its output is collected. -/
structure NeverHeldUp (p : PreparedRender) (σ : CellStore) : Prop where
  steps : ∀ {S : Type} [Sink S] (s : S) (rounds : List (Round S)),
    ∀ x ∈ RenderState.run p.context ⟨σ, p.entry.start p.data p.injected, s⟩ rounds,
      ∀ c, (x.result p.context).outcome ≠ .ok (.detached c)
  text : ∀ r, p.renderText σ = .ok r → r.handle.handle.status = .done
  strict : ∀ r, p.renderStrict σ = .ok r → r.handle.handle.status = .done

/-- A render whose calls find room, in whatever steps it is made and where its output is collected. -/
structure HasRoom (p : PreparedRender) (σ : CellStore) : Prop where
  steps : ∀ {S : Type} [Sink S] (s : S) (rounds : List (Round S)),
    ∀ x ∈ RenderState.run p.context ⟨σ, p.entry.start p.data p.injected, s⟩ rounds, ¬ x.Cramped p.context
  text : ∀ e, p.renderText σ = .error e → e.kind ≠ .callsTooDeep
  strict : ∀ e, p.renderStrict σ = .error e → e.kind ≠ .callsTooDeep

def withRoom (p : PreparedRender) (room : Nat) : PreparedRender := { p with context := p.context.withRoom room }

variable {p : PreparedRender} {σ : CellStore}

/-- What is checked before the first step does not come to the calls. -/
theorem enforceKind_ne (template : String) (expected : ContentKind) (declared : Option ContentKind) :
    enforceKind template expected declared ≠ .error .callsTooDeep := by
  cases declared with
  | none =>
    simp only [enforceKind]
    split <;> simp
  | some actual =>
    simp only [enforceKind]
    split_ifs <;> simp

theorem checkKind_ne (p : PreparedRender) : p.checkKind ≠ .error .callsTooDeep := by
  rw [checkKind]
  split
  · exact enforceKind_ne _ _ _
  · simp

theorem checkStrict_ne (p : PreparedRender) : p.checkStrict ≠ .error .callsTooDeep := by
  rw [checkStrict]
  split
  · simp
  · exact enforceKind_ne _ _ _

/-- A tree of calls that ends finds room for all its calls. -/
theorem exists_hasRoom (finite : (p.entry.start p.data p.injected).CallsEnd p.context σ) :
    ∃ enough, ∀ room, enough ≤ room → (p.withRoom room).HasRoom σ := by
  obtain ⟨enough, roomy⟩ := finite.exists_room
  refine ⟨enough, fun room more => ?_⟩
  have collected {check : Except ErrorKind Unit} (lenient : check ≠ .error .callsTooDeep) {kind : Option ContentKind}
      {e : RenderError} (failed : (do
        check.mapError RenderError.ofKind
        let handle ← (p.withRoom room).start σ OutputBuffer.empty
        return (⟨(p.withRoom room).context, handle, kind⟩ : BufferedRender)) = .error e) : e.kind ≠ .callsTooDeep := by
    cases check with
    | error refused =>
      cases failed
      exact fun lacks => lenient (congrArg Except.error lacks)
    | ok _ =>
      have stepped := exceptMap_eq_error.mp (bind_pure_eq_error.mp failed)
      intro lacks
      refine roomy room more OutputBuffer.empty [⟨[], id⟩] _ List.mem_cons_self ?_
      exact (congrArg (Except.mapError RenderError.kind) stepped).trans (congrArg Except.error lacks)
  exact ⟨roomy room more, fun e failed => collected (p.withRoom room).checkKind_ne failed,
    fun e failed => collected (p.withRoom room).checkStrict_ne failed⟩

theorem neverHeldUp (only : p.context.ReachesOnly (Slot.Known σ) p.entry) (data : Record.Each (Slot.Known σ) p.data)
    (injected : Record.Each (Slot.Known σ) p.injected) : p.NeverHeldUp σ := by
  have hereditary (later : CellStore) : Hereditary p.context later (.reached p.context (Slot.Known σ) p.entry) :=
    only.hereditary (Slot.known_null σ)
  have made := RenderContext.Reaches.root.start_madeOf only data injected
  have buffered {handle : Handle Instance OutputBuffer} (started : p.start σ OutputBuffer.empty = .ok handle) :
      handle.status = .done := by
    let x : RenderState OutputBuffer := ⟨σ, p.entry.start p.data p.injected, OutputBuffer.empty⟩
    have unlimited : (x.result p.context).outcome ≠ .ok .limited := x.unlimited (hereditary σ) made fun _ => rfl
    have undetached := x.not_detached only (.refl σ) made
    obtain ⟨status, outcome, rfl⟩ := exceptMap_eq_ok.mp started
    cases status with
    | done => rfl
    | limited => exact absurd outcome unlimited
    | detached c => exact absurd outcome (undetached c)
  refine ⟨?_, ?_, ?_⟩
  · intro S _ s rounds x member
    exact x.not_detached only (RenderState.store_precedes member) (RenderState.run_madeOf hereditary member made)
  · intro r started
    obtain ⟨_, -, started⟩ := exceptBind_eq_ok.mp started
    obtain ⟨handle, stepped, same⟩ := exceptBind_eq_ok.mp started
    cases same
    exact buffered stepped
  · intro r started
    obtain ⟨_, -, started⟩ := exceptBind_eq_ok.mp started
    obtain ⟨handle, stepped, same⟩ := exceptBind_eq_ok.mp started
    cases same
    exact buffered stepped

/-- Never held up, and never short of room for calls from some room on, if the tree of calls ends: the first step of a
render whose output is collected is done then, or it fails for another reason. -/
def Plain (p : PreparedRender) (σ : CellStore) : Prop :=
  p.NeverHeldUp σ ∧ ((p.entry.start p.data p.injected).CallsEnd p.context σ →
    ∃ enough, ∀ room, enough ≤ room → (p.withRoom room).NeverHeldUp σ ∧ (p.withRoom room).HasRoom σ)

theorem plain (only : p.context.ReachesOnly (Slot.Known σ) p.entry) (data : Record.Each (Slot.Known σ) p.data)
    (injected : Record.Each (Slot.Known σ) p.injected) : p.Plain σ := by
  refine ⟨neverHeldUp only data injected, fun finite => ?_⟩
  obtain ⟨enough, roomy⟩ := exists_hasRoom finite
  exact ⟨enough, fun room more => ⟨neverHeldUp (only.withRoom room) data injected, roomy room more⟩⟩

end PreparedRender

/-- The fields of a converted object are values. -/
theorem get?_fieldsToSlots {names : List String} (fields : Fields Json names) (name : String) :
    (fieldsToSlots fields).get? name = (fields.get? name).map fun item => .ready item.toValue := by
  induction fields with
  | nil => rfl
  | snoc older own fresh value ih =>
    simp only [fieldsToSlots, Fields.get?, ih]
    split <;> rfl

theorem known_membersToSlots (members : OrderedMap Json) (σ : CellStore) :
    Record.Each (Slot.Known σ) (membersToSlots members) := by
  intro name slot found
  obtain ⟨names, fields⟩ := members
  obtain ⟨item, -, rfl⟩ := Option.map_eq_some_iff.mp ((get?_fieldsToSlots fields name).symm.trans found)
  rfl

theorem Renderer.withData_json {r : Renderer} (standard : r.engine.converter = .json) (members : OrderedMap Json) :
    r.withData (.object members) = .ok { r with data := membersToSlots members } := by
  rw [withData, standard, Converter.json_convertRecord]
  rfl

theorem Renderer.withInjected_json {r : Renderer} (standard : r.engine.converter = .json) (members : OrderedMap Json) :
    r.withInjected (.object members) = .ok { r with injected := membersToSlots members } := by
  rw [withInjected, standard, Converter.json_convertRecord]
  rfl

/-- Where no slot is pending that is given as a parameter, as an injected value or as a literal of a template that the
render may come to, the render is never held up, however calls, directives and messages are nested, and if its tree of
calls ends it finds room for all of them. All objects that the standard converter converts are such data. -/
theorem PreparedRender.plain_data_never_detaches (σ : CellStore) :
    (∀ p : PreparedRender, p.context.ReachesOnly (Slot.Known σ) p.entry → Record.Each (Slot.Known σ) p.data →
        Record.Each (Slot.Known σ) p.injected → p.Plain σ) ∧
      ∀ (r : Renderer) (data injected : OrderedMap Json), r.engine.converter = .json →
        ∃ r', (r.withData (.object data) >>= fun r => r.withInjected (.object injected)) = .ok r' ∧
          ∀ p, r'.prepare = .ok p → p.context.ReachesOnly (Slot.Known σ) p.entry → p.Plain σ := by
  refine ⟨fun p => plain, fun r data injected standard => ?_⟩
  refine ⟨{ r with data := membersToSlots data, injected := membersToSlots injected }, ?_, ?_⟩
  · have kept : ({ r with data := membersToSlots data } : Renderer).engine.converter = .json := standard
    rw [Renderer.withData_json standard]
    exact Renderer.withInjected_json kept injected
  · intro p prepared only
    obtain ⟨context, -, rfl⟩ := exceptMap_eq_ok.mp prepared
    exact plain only (known_membersToSlots data σ) (known_membersToSlots injected σ)

/-- A greeting that leaves the name to another program. -/
def helloProgram : Program :=
  ⟨"hello", [⟨.text "Hello ", none⟩, ⟨.call "name" .all, none⟩, ⟨.text "!", none⟩]⟩

def nameProgram : Program := ⟨"name", [⟨.print (.param "name") ["|escapeHtml"], none⟩]⟩

/-- The greeting with a name in a cell that is completed, and with a name that is converted; a second cell that is
pending does not matter. The greeting makes one call, for which there is room. -/
theorem plain_data_never_detaches_hello :
    let σ : CellStore := ⟨[⟨"name", .completed (.string "Ann")⟩, ⟨"age", .pending⟩]⟩
    let ctx := RenderContext.ofPrograms [helloProgram, nameProgram] standardCallDepth
    let p : PreparedRender :=
      ⟨⟨"hello", default, .program helloProgram⟩, OrderedMap.ofList [("name", .deferred ⟨0⟩)], .empty, ctx, .html,
        false⟩
    let r : Renderer :=
      ⟨⟨ctx.registry, SortedMap.empty, DirectiveTable.builtin, .json, .empty⟩, p.entry, .empty, .empty, SortedMap.empty,
        .empty, none, none, .html, false⟩
    (p.NeverHeldUp σ ∧ (p.renderText σ).toOption.map (fun r => r.handle.handle.status) = some .done ∧
        ∃ enough, ∀ room, enough ≤ room → (p.withRoom room).NeverHeldUp σ ∧ (p.withRoom room).HasRoom σ) ∧
      ∃ r', (r.withData (.object (OrderedMap.ofList [("name", .array [.string "Bob"])])) >>=
          fun r => r.withInjected (.object .empty)) = .ok r' ∧
        ∃ p', r'.prepare = .ok p' ∧ p'.Plain σ := by
  intro σ ctx p r
  have programs : ctx.Programs (Slot.Known σ) := by
    intro entry offered
    obtain ⟨program, member, body⟩ := RenderContext.offers_ofPrograms offered
    have text (s : String) : Instruction.Literals (Slot.Known σ) (.text s) :=
      ⟨fun ref reads => (by cases reads), fun data passes => (by cases passes)⟩
    have call : Instruction.Literals (Slot.Known σ) (.call "name" .all) := by
      refine ⟨fun ref reads => (by cases reads), fun data passes => ?_⟩
      obtain rfl := Option.mem_some.mp passes
      trivial
    have print : Instruction.Literals (Slot.Known σ) (.print (.param "name") ["|escapeHtml"]) := by
      refine ⟨fun ref reads => ?_, fun data passes => (by cases passes)⟩
      obtain rfl := List.mem_singleton.mp reads
      trivial
    refine ⟨program, body, ?_⟩
    simp only [List.mem_cons, List.not_mem_nil, or_false] at member
    rcases member with rfl | rfl
    · simp [helloProgram, text, call]
    · simp [nameProgram, print]
  have only : ctx.ReachesOnly (Slot.Known σ) p.entry := programs.reachesOnly (.inl ⟨"hello", rfl⟩)
  obtain ⟨known, converted⟩ := PreparedRender.plain_data_never_detaches σ
  have name : Record.Each (Slot.Known σ) p.data := by
    intro other slot found
    simp only [p, OrderedMap.get?_ofList] at found
    obtain ⟨pair, last, rfl⟩ := Option.map_eq_some_iff.mp found
    obtain rfl := List.mem_singleton.mp (List.mem_of_find?_eq_some last)
    rfl
  have fits : (p.entry.start p.data p.injected).Fits p.context σ 2 := Instance.fits_of_nestsWithin (by decide)
  obtain ⟨neverHeldUp, roomy⟩ := known p only name (.empty _)
  obtain ⟨r', set, plain⟩ := converted r (OrderedMap.ofList [("name", .array [.string "Bob"])]) .empty rfl
  refine ⟨⟨neverHeldUp, by decide +kernel, roomy fits.callsEnd⟩, r', set, ?_⟩
  cases set
  exact ⟨⟨_, _, _, ctx, _, _⟩, rfl, plain _ rfl only⟩

end TemplateEngine
