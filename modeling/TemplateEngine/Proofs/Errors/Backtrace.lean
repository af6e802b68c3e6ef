import TemplateEngine.Proofs.Errors.Raised
import TemplateEngine.Proofs.Errors.WholeOutputs
import TemplateEngine.Proofs.Pure

namespace TemplateEngine

variable {ctx : RenderContext} {σ : CellStore} {depth : Nat} {p : Parts}

def ProgramLine.position? : ProgramLine → Option SourcePosition
  | .position p => some p
  | .instruction _ => none

namespace Program

/-- The place that some lines leave for the instructions behind them. -/
def lastPosition (lines : List ProgramLine) : Option SourcePosition := (lines.filterMap ProgramLine.position?).getLast?

theorem lastPosition_cons (line : ProgramLine) (lines : List ProgramLine) (given : Option SourcePosition) :
    (lastPosition (line :: lines)).or given = (lastPosition lines).or (line.position?.or given) := by
  cases place : line.position? with
  | none => rw [lastPosition, List.filterMap_cons_none place, lastPosition, Option.none_or]
  | some p =>
    rw [lastPosition, List.filterMap_cons_some place, List.getLast?_cons, lastPosition]
    cases (lines.filterMap ProgramLine.position?).getLast? <;> rfl

/-- What is left of a program starts at an instruction of its lines, with the place given last before that one. -/
theorem exists_lines_of_suffix {given : Option SourcePosition} {lines : List ProgramLine} {first : Step}
    {rest : List Step} (left : first :: rest <:+ place given lines) :
    ∃ before after, lines = before ++ .instruction first.instruction :: after ∧
      first.position = (lastPosition before).or given ∧ rest = place first.position after := by
  induction lines generalizing given with
  | nil => simp [place] at left
  | cons line lines ih =>
    cases line with
    | position p =>
      obtain ⟨before, after, rfl, position, rest⟩ := ih left
      exact ⟨.position p :: before, after, rfl, by rw [position, lastPosition_cons]; rfl, rest⟩
    | instruction i =>
      rcases List.suffix_cons_iff.mp left with whole | later
      · obtain ⟨rfl, rfl⟩ := List.cons.inj whole
        exact ⟨[], lines, rfl, rfl, rfl⟩
      · obtain ⟨before, after, rfl, position, rest⟩ := ih later
        exact ⟨.instruction i :: before, after, rfl, by rw [position, lastPosition_cons]; rfl, rest⟩

end Program

namespace RenderContext

/-- Every template on offer is a program that is written down line by line. -/
def WrittenDown (ctx : RenderContext) : Prop :=
  ∀ entry, ctx.Offers entry → ∃ name lines, entry.body = .program (.ofLines name lines)

/-- A program that runs what is left of the lines of a template on offer. -/
def Runs (ctx : RenderContext) (frame : Activation) : Prop :=
  ∃ entry lines, ctx.Offers entry ∧ entry.body = .program (.ofLines frame.name lines) ∧
    frame.todo <:+ Program.place none lines

/-- A frame names a program, and the place written down last before the instruction that the program is at. -/
def Marks (ctx : RenderContext) (frame : TemplateFrame) (running : Activation) : Prop :=
  ∃ entry before i after, ctx.Offers entry ∧
    entry.body = .program (.ofLines running.name (before ++ .instruction i :: after)) ∧
    running.todo = Program.place (Program.lastPosition before) (.instruction i :: after) ∧
    frame = ⟨running.name, Program.lastPosition before⟩

theorem Runs.marks {frame : Activation} (runs : ctx.Runs frame) (busy : frame.todo ≠ []) :
    ctx.Marks frame.place frame := by
  obtain ⟨entry, lines, offered, body, left⟩ := runs
  obtain ⟨first, rest, todo⟩ := List.exists_cons_of_ne_nil busy
  obtain ⟨before, after, rfl, position, last⟩ := Program.exists_lines_of_suffix (todo ▸ left)
  rw [Option.or_none] at position
  refine ⟨entry, before, first.instruction, after, offered, body, ?_, ?_⟩
  · rw [todo, last, ← position]
    rfl
  · rw [Activation.place, todo, ← position]
    rfl

/-- A directive of the environment. -/
def Knows (ctx : RenderContext) (directive : PrintDirective) : Prop :=
  ∃ name, ctx.directives.lookup name = .ok directive

/-- The directives and functions of an environment report errors without frames, and leave the frames to the render. -/
structure Frameless (ctx : RenderContext) : Prop where
  directives : ∀ directive, ctx.Knows directive → ∀ σ value args e,
    directive.apply σ value args = .error e → e.frames = []
  functions : ∀ name function, ctx.functions.lookup name = .ok function → ∀ σ values e,
    function.call σ values = .error e → e.frames = []

theorem WrittenDown.start_madeOf (written : ctx.WrittenDown) {entry : TemplateEntry} (offered : ctx.Offers entry)
    (params injected : Record) : (entry.start params injected).MadeOf ⟨ctx.Runs, ctx.Knows⟩ := by
  obtain ⟨name, lines, body⟩ := written entry offered
  simp only [TemplateEntry.start, body]
  exact .program ⟨entry, lines, offered, body, List.suffix_rfl⟩

theorem WrittenDown.hereditary (written : ctx.WrittenDown) : Hereditary ctx σ ⟨ctx.Runs, ctx.Knows⟩ := by
  refine Hereditary.of_start ?_ (fun _ calls _ => written.start_madeOf calls.offers _ _)
    fun name _ found => ⟨name, found⟩
  rintro frame first rest ⟨entry, lines, offered, body, left⟩
  exact ⟨entry, lines, offered, body, (List.suffix_cons first rest).trans left⟩

end RenderContext

namespace Instance

theorem Move.madeOf (hereditary : Hereditary ctx σ p) {template next : Instance} {done : List Finished}
    (move : template.Move ctx σ depth done next) (made : template.MadeOf p) : next.MadeOf p := by
  induction move with
  | @print _ frame first rest _ _ todo idle =>
    obtain ⟨name, _, params, injected⟩ := frame
    obtain rfl : _ = first :: rest := todo
    obtain rfl := made.atCall.eq_none idle
    exact .program (hereditary.rest made.frame)
  | @enter _ frame first rest _ callee todo idle starts =>
    obtain ⟨name, _, params, injected⟩ := frame
    obtain rfl : _ = first :: rest := todo
    exact .calling made.frame (.of_calls rfl (Instruction.calls_of_enter starts) _) (hereditary.enter made.frame starts)
  | inside todo calls move ih => exact .calling made.frame (.of_calls todo calls _) (ih made.callee)
  | @leave _ frame first rest callee todo =>
    obtain ⟨name, _, params, injected⟩ := frame
    obtain rfl : _ = first :: rest := todo
    exact .program (hereditary.rest made.frame)
  | collect move ih =>
    cases made with
    | escaped directives inside => exact .escaped directives (ih inside)
  | deliver ended passes => exact .empty

theorem Moves.madeOf (hereditary : Hereditary ctx σ p) {template last : Instance} {done : List Finished}
    (moves : template.Moves ctx σ depth done last) (made : template.MadeOf p) : last.MadeOf p := by
  induction moves with
  | here => exact made
  | further move _ ih => exact ih (move.madeOf hereditary made)

/-- The programs on the call stack are as required, and each of them is at an instruction. -/
theorem MadeOf.running {template : Instance} {room : Nat} (made : template.MadeOf p) :
    ∀ frame ∈ template.running room, p.program frame ∧ frame.todo ≠ [] := by
  induction room generalizing template with
  | zero => simp [Instance.running]
  | succ room ih =>
    cases template with
    | empty | chunks => simp [Instance.running]
    | escaped w =>
      cases made with
      | escaped _ inside => exact ih inside
    | program frame slot =>
      obtain ⟨name, todo, params, injected⟩ := frame
      cases todo with
      | nil => simp [Instance.running]
      | cons first rest =>
        cases running : first.inFlight slot with
        | none =>
          rw [Instance.running_idle running]
          simpa using made.frame
        | some callee =>
          obtain ⟨calls, rfl⟩ := Step.inFlight_eq_some.mp running
          rw [Instance.running_calling calls]
          intro other member
          rcases List.mem_append.mp member with above | here
          · exact ih made.callee other above
          · obtain rfl := List.mem_singleton.mp here
            exact ⟨made.frame, List.cons_ne_nil first rest⟩

/-- What fails with some programs on the call stack: the instruction of the innermost of them, a call that cannot be
carried out included, or what is no program. -/
inductive Culprit (ctx : RenderContext) (σ : CellStore) (running : List Activation) (raised : RenderError) : Prop
  | instruction {caller outer first rest} (innermost : running = caller :: outer) (todo : caller.todo = first :: rest)
      (fails : first.instruction.effect ctx σ caller.params caller.injected = .error (.fails raised))
  /-- The directives that output passes through. -/
  | directives {known content text} (among : ∀ directive ∈ known, ctx.Knows directive)
      (refuses : Escaped.output σ known content text = .error raised)
  /-- A call that finds no room. -/
  | room (deep : raised = .ofKind .callsTooDeep)

theorem Culprit.inside {running : List Activation} {raised : RenderError} (culprit : Culprit ctx σ running raised)
    (caller : Activation) : Culprit ctx σ (running ++ [caller]) raised := by
  cases culprit with
  | instruction innermost todo fails => exact .instruction (by rw [innermost, List.cons_append]) todo fails
  | directives among refuses => exact .directives among refuses
  | room deep => exact .room deep

theorem Fails.culprit {last : Instance} {raised : RenderError} (fails : last.Fails ctx σ depth raised)
    (made : last.MadeOf ⟨ctx.Runs, ctx.Knows⟩) : Culprit ctx σ (last.running depth) raised := by
  induction fails with
  | tooDeep => exact .room rfl
  | @instruction _ frame first rest _ _ todo idle fails =>
    obtain ⟨name, _, params, injected⟩ := frame
    obtain rfl : _ = first :: rest := todo
    rw [Instance.running_idle idle]
    exact .instruction rfl rfl fails
  | @inside _ frame first rest callee _ todo calls fails ih =>
    obtain ⟨name, _, params, injected⟩ := frame
    obtain rfl : _ = first :: rest := todo
    rw [Instance.running_calling calls]
    exact (ih made.callee).inside _
  | behind fails ih =>
    cases made with
    | escaped _ inside => exact ih inside
  | directives ended refuses =>
    cases made with
    | escaped among _ => exact .directives among refuses

/-- Only what a directive or a function reports can have frames from the start. -/
theorem Culprit.frameless {running : List Activation} {raised : RenderError} (culprit : Culprit ctx σ running raised)
    (frameless : ctx.Frameless) : raised.frames = [] := by
  cases culprit with
  | room deep => exact congrArg RenderError.frames deep
  | directives among refuses =>
    obtain ⟨directive, member, value, failed⟩ := PrintDirective.applyAll_eq_error refuses
    exact frameless.directives directive (among directive member) σ value [] raised failed
  | instruction _ _ fails =>
    cases Instruction.raises_of_effect fails with
    | engine => rfl
    | directive found failed => exact frameless.directives _ ⟨_, found⟩ σ _ [] raised failed
    | function found failed => exact frameless.functions _ _ found σ _ raised failed

end Instance

variable {S : Type} [Sink S]

/-- The frames that a render adds to an error are the programs on the call stack where it is raised, from the innermost
outwards, each with the place of the instruction that it is at. Where an instruction fails, its own program is the
innermost. They stand behind what a directive or a function has reported itself, so if these leave the frames to the
render, the error has the call stack and nothing else. -/
theorem RenderContext.frames_are_call_stack (ctx : RenderContext) (written : ctx.WrittenDown) (entry : TemplateEntry)
    (offered : ctx.Offers entry) (params injected : Record) (store : CellStore) (sink : S) (rounds : List (Round S)) :
    ∀ x ∈ RenderState.run ctx ⟨store, entry.start params injected, sink⟩ rounds, ∀ e,
      (x.result ctx).outcome = .error e →
        ∃ done last stack, x.template.Moves ctx x.store ctx.callDepth done last ∧
          List.Forall₂ ctx.Marks stack (last.running ctx.callDepth) ∧
          ((∃ raised, last.Fails ctx x.store ctx.callDepth raised ∧
              Instance.Culprit ctx x.store (last.running ctx.callDepth) raised ∧ e = raised.withFrames stack) ∨
            last.Refuses ctx x.store ctx.callDepth e (x.events ctx) ∧ e.frames = stack) ∧
          (ctx.Frameless → e.frames = stack) := by
  intro x member e failed
  have made := RenderState.run_madeOf (fun _ => written.hereditary) member
    (written.start_madeOf offered params injected)
  obtain ⟨done, last, -, moves, stops⟩ := (x.trace ctx).finishes written.hereditary made
  have left := moves.madeOf written.hereditary made
  have marks : List.Forall₂ ctx.Marks (last.backtrace ctx.callDepth) (last.running ctx.callDepth) := by
    rw [Instance.backtrace, List.forall₂_map_left_iff, List.forall₂_same]
    intro running among
    obtain ⟨runs, busy⟩ := left.running running among
    exact runs.marks busy
  rw [failed] at stops
  refine ⟨done, last, last.backtrace ctx.callDepth, moves, marks, ?_⟩
  rcases stops with ⟨raised, fails, rfl⟩ | ⟨refuses, frames⟩
  · have culprit := fails.culprit left
    refine ⟨.inl ⟨raised, fails, culprit, rfl⟩, fun frameless => ?_⟩
    rw [RenderError.withFrames, culprit.frameless frameless, List.nil_append]
  · exact ⟨.inr ⟨refuses, frames⟩, fun _ => frames⟩

/-- A page that calls a list, which waits for a value and then calls a template that does not exist. -/
def pageLines : List ProgramLine :=
  [.instruction (.text "<ul>"), .position ⟨2, 3⟩, .instruction (.call "list" .none), .position ⟨4, 1⟩,
    .instruction (.text "</ul>")]

def listLines : List ProgramLine :=
  [.instruction (.print (.literal (.deferred ⟨0⟩)) []), .position ⟨7, 5⟩, .instruction (.call "item" .none)]

/-- What every engine has leaves the frames to the render. -/
theorem RenderContext.frameless_ofPrograms (programs : List Program) (room : Nat) :
    (ofPrograms programs room).Frameless where
  directives := by
    rintro directive ⟨name, found⟩ σ value args e failed
    have member := DirectiveTable.mem_of_builtin found
    simp only [List.mem_cons, List.not_mem_nil, or_false] at member
    rcases member with rfl | rfl | rfl
    · simp only [PrintDirective.escapeHtml] at failed
      split at failed <;> cases failed
    · cases failed
    · cases failed
  functions := by
    intro name function found
    cases found

/-- The call of what does not exist adds no frame, and the frames of the callee and of the page are there once each
although the page was entered in the step before. -/
theorem frames_are_call_stack_page :
    let ctx := RenderContext.ofPrograms [.ofLines "page" pageLines, .ofLines "list" listLines] 3
    let page : TemplateEntry := ⟨"page", default, .program (.ofLines "page" pageLines)⟩
    let run := RenderState.run ctx ⟨⟨[⟨"name", .pending⟩]⟩, page.start .empty .empty, OutputBuffer.empty⟩
      [⟨[], id⟩, ⟨[.set ⟨0⟩ (.string "a")], id⟩]
    ∃ x ∈ run, ∃ e, (x.result ctx).outcome = .error e ∧ e.frames = [⟨"list", some ⟨7, 5⟩⟩, ⟨"page", some ⟨2, 3⟩⟩] ∧
      ∃ done last, x.template.Moves ctx x.store ctx.callDepth done last ∧
        List.Forall₂ ctx.Marks e.frames (last.running ctx.callDepth) := by
  intro ctx page run
  have written : ctx.WrittenDown := by
    intro entry offered
    obtain ⟨p, member, body⟩ := RenderContext.offers_ofPrograms offered
    simp only [List.mem_cons, List.not_mem_nil, or_false] at member
    rcases member with rfl | rfl <;> exact ⟨_, _, body⟩
  obtain ⟨x, member, e, failed, frames⟩ : ∃ x ∈ run, ∃ e, (x.result ctx).outcome = .error e ∧
      e.frames = [⟨"list", some ⟨7, 5⟩⟩, ⟨"page", some ⟨2, 3⟩⟩] :=
    ⟨_, List.mem_cons_of_mem _ List.mem_cons_self, _, rfl, rfl⟩
  obtain ⟨done, last, stack, moves, marks, -, frameless⟩ := ctx.frames_are_call_stack written page
    (.inl ⟨"page", rfl⟩) .empty .empty ⟨[⟨"name", .pending⟩]⟩ OutputBuffer.empty
    [⟨[], id⟩, ⟨[.set ⟨0⟩ (.string "a")], id⟩] x member e failed
  obtain rfl := frameless (RenderContext.frameless_ofPrograms _ 3)
  exact ⟨x, member, e, failed, frames, done, last, moves, marks⟩

end TemplateEngine
