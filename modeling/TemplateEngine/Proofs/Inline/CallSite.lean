import TemplateEngine.Proofs.Inline.SameMove
import TemplateEngine.Proofs.Inline.Substitution

namespace TemplateEngine

/-- A call of a program, with what comes after it in the caller and what the caller reads. -/
structure CallSite where
  /-- The name of the program that calls. -/
  caller : String
  /-- The name of the program that has the callee written out. -/
  inlined : String
  callee : String
  data : CallData
  position : Option SourcePosition
  body : Program
  after : List Step
  params : Record
  injected : Record

namespace CallSite

variable (site : CallSite)

def call : Step := ⟨.call site.callee site.data, site.position⟩

def inline (steps : List Step) : List Step := steps.map (Step.inline site.data)

def calling (todo : List Step) (callee : Option Instance) : Instance :=
  .program ⟨site.caller, todo, site.params, site.injected⟩ callee

def inlining (todo : List Step) (callee : Option Instance) : Instance :=
  .program ⟨site.inlined, todo, site.params, site.injected⟩ callee

def called (todo : List Step) (callee : Option Instance) : Instance :=
  .program ⟨site.body.name, todo, site.data.record site.params site.injected, site.injected⟩ callee

/-- A call can be inlined if it finds a program with instructions that can all be written for the caller. -/
structure Inlinable (ctx : RenderContext) : Prop where
  registered : ∃ entry, ctx.registry.lookup site.callee = .ok entry ∧ entry.body = .program site.body
  nonempty : site.body.steps ≠ []
  steps : ∀ step ∈ site.body.steps, step.instruction.Inlinable site.data

/-- The caller and the program that has the callee written out, at the same point of their renders. -/
inductive Matches : Instance → Instance → Prop
  | before {pre slot} (held : AtCall pre slot) :
      Matches (site.calling (pre ++ site.call :: site.after) slot)
        (site.inlining (pre ++ (site.inline site.body.steps ++ site.after)) slot)
  | inside {rest slot} (held : AtCall rest slot) (left : rest ≠ []) (among : ∀ step ∈ rest, step ∈ site.body.steps) :
      Matches (site.calling (site.call :: site.after) (some (site.called rest slot)))
        (site.inlining (site.inline rest ++ site.after) slot)
  | after {rest slot} (held : AtCall rest slot) : Matches (site.calling rest slot) (site.inlining rest slot)

/-- Turns of the two programs are alike, unless the one with less room lacks it. -/
def TurnsAlike (depth room : Nat) (turn turn' : Turn) : Prop :=
  turn.Alike site.Matches turn' ∨ depth ≤ room ∧ turn.Cramped ∨ room < depth ∧ turn'.Cramped

variable {site} {ctx : RenderContext} {σ : CellStore} {depth room : Nat}

/-- Past the call and before it the two programs have the same instruction to do. -/
theorem turn_outside {first : Step} {rest rest' : List Step} {slot : Option Instance}
    (held : AtCall (first :: rest) slot)
    (ends : rest.isEmpty = rest'.isEmpty)
    (stays : ∀ slot, AtCall (first :: rest) slot →
      site.Matches (site.calling (first :: rest) slot) (site.inlining (first :: rest') slot))
    (completed : rest ≠ [] → site.Matches (site.calling rest none) (site.inlining rest' none)) :
    site.TurnsAlike (depth + 1) (room + 1) ((site.calling (first :: rest) slot).turn ctx σ (depth + 1))
      ((site.inlining (first :: rest') slot).turn ctx σ (room + 1)) := by
  have effects : first.instruction.effect ctx σ site.params site.injected =
      first.instruction.effect ctx σ site.params site.injected := rfl
  rcases Activation.turn_sameMove ⟨site.caller, first :: rest, site.params, site.injected⟩
    ⟨site.inlined, first :: rest', site.params, site.injected⟩ first first rest rest' effects rfl held with
    move | ⟨callee, differ, here, there⟩
  · exact .inl (move.alike ends stays completed)
  · rw [TurnsAlike, calling, inlining, Instance.turn, Instance.turn, here, there]
    rcases Instance.cramped_of_ne differ with ⟨less, cramped⟩ | ⟨less, cramped⟩
    · exact .inr (.inl ⟨Nat.succ_le_succ (Nat.le_of_lt less), Activation.relay_cramped cramped⟩)
    · exact .inr (.inr ⟨Nat.succ_lt_succ less, Activation.relay_cramped cramped⟩)

/-- A call that starts is at the first instruction of its callee. -/
theorem turn_call (inlinable : site.Inlinable ctx) (depth : Nat) :
    (site.calling (site.call :: site.after) none).turn ctx σ (depth + 1) =
      (site.calling (site.call :: site.after) (some (site.called site.body.steps none))).turn ctx σ (depth + 1) := by
  obtain ⟨entry, found, body⟩ := inlinable.registered
  have entered : site.call.instruction.effect ctx σ site.params site.injected =
      .ok (.enter (site.called site.body.steps none)) := by
    simp only [call, Instruction.effect, RenderContext.create, found, Except.map, mapError_ok, TemplateEntry.start,
      body, called]
  have running (callee : Instance) : site.call.inFlight (some callee) = some callee := rfl
  simp only [calling, Instance.turn, Activation.turn, Step.inFlight_none, running, entered]

/-- In the callee the two programs are at an instruction and at that instruction as written for the caller. -/
theorem turn_inside (inlinable : site.Inlinable ctx) {rest : List Step} {slot : Option Instance}
    (held : AtCall rest slot) (left : rest ≠ []) (among : ∀ step ∈ rest, step ∈ site.body.steps) :
    site.TurnsAlike (depth + 1) (room + 1)
      ((site.calling (site.call :: site.after) (some (site.called rest slot))).turn ctx σ (depth + 1))
      ((site.inlining (site.inline rest ++ site.after) slot).turn ctx σ (room + 1)) := by
  have running (turn : Instance → Turn) (callee : Instance) :
      Activation.turn ctx σ turn ⟨site.caller, site.call :: site.after, site.params, site.injected⟩
          (site.call :: site.after) (some callee) =
        Activation.relay ⟨site.caller, site.call :: site.after, site.params, site.injected⟩ site.call site.after
          (turn callee) :=
    Activation.turn_inFlight ctx σ turn _ site.after rfl
  cases depth with
  | zero =>
    refine .inr (.inl ⟨Nat.succ_le_succ (Nat.zero_le room), ?_⟩)
    rw [calling, Instance.turn, running]
    exact Activation.relay_cramped rfl
  | succ depth =>
    obtain ⟨first, rest, rfl⟩ := List.exists_cons_of_ne_nil left
    have effects := Instruction.effect_inline ctx σ site.params site.injected
      (inlinable.steps first (among first List.mem_cons_self))
    have later : ∀ step ∈ rest, step ∈ site.body.steps := fun step member =>
      among step (List.mem_cons_of_mem first member)
    rw [calling, Instance.turn, running, called, Instance.turn, inlining, Instance.turn]
    rcases Activation.turn_sameMove
      ⟨site.body.name, first :: rest, site.data.record site.params site.injected, site.injected⟩
      ⟨site.inlined, site.inline (first :: rest) ++ site.after, site.params, site.injected⟩ first
      (first.inline site.data) rest (site.inline rest ++ site.after) effects (first.instruction.calls_inline site.data)
      held with move | ⟨callee, differ, here, there⟩
    · refine .inl (move.relay_alike ?_ ?_ ?_ ?_)
      · cases rest <;> rfl
      · exact fun slot held => .inside held (List.cons_ne_nil first rest) among
      · exact fun left => .inside (.none rest) left later
      · exact fun _ => .after (.none _)
    · rcases Instance.cramped_of_ne differ with ⟨less, cramped⟩ | ⟨less, cramped⟩
      · rw [here]
        exact .inr (.inl ⟨Nat.succ_le_succ less, Activation.relay_cramped (Activation.relay_cramped cramped)⟩)
      · have lacks := (congrArg Turn.Cramped there).mpr (Activation.relay_cramped cramped)
        exact .inr (.inr ⟨Nat.succ_lt_succ (Nat.lt_succ_of_lt less), lacks⟩)

theorem turnsAlike (inlinable : site.Inlinable ctx) (depth room : Nat) {a b : Instance} (related : site.Matches a b) :
    site.TurnsAlike depth room (a.turn ctx σ depth) (b.turn ctx σ room) := by
  cases depth with
  | zero => exact .inr (.inl ⟨Nat.zero_le room, rfl⟩)
  | succ depth =>
    cases room with
    | zero => exact .inr (.inr ⟨Nat.succ_pos depth, rfl⟩)
    | succ room =>
      cases related with
      | inside held left among => exact turn_inside inlinable held left among
      | @after rest slot held =>
        cases rest with
        | nil => exact .inl (.act .none fun unfinished => absurd rfl unfinished)
        | cons first rest => exact turn_outside held rfl (fun _ held => .after held) fun _ => .after (.none rest)
      | @before pre slot held =>
        cases pre with
        | nil =>
          obtain rfl : slot = none := by
            cases slot with
            | none => rfl
            | some callee => simpa using held callee rfl
          have started := turn_call inlinable (σ := σ) depth
          rw [List.nil_append, List.nil_append, started]
          exact turn_inside inlinable (.none _) inlinable.nonempty fun _ member => member
        | cons first pre =>
          have ends : (pre ++ site.call :: site.after).isEmpty =
              (pre ++ (site.inline site.body.steps ++ site.after)).isEmpty := by
            cases pre with
            | cons second pre => rfl
            | nil =>
              obtain ⟨step, steps, body⟩ := List.exists_cons_of_ne_nil inlinable.nonempty
              rw [body]
              rfl
          have here {slot : Option Instance} (held : AtCall (first :: (pre ++ site.call :: site.after)) slot) :
              AtCall (first :: pre) slot := AtCall.cons.mpr (AtCall.cons.mp held)
          exact turn_outside (AtCall.cons.mpr (AtCall.cons.mp held)) ends (fun slot held => .before (here held))
            fun _ => .before (.none pre)

/-- The caller does what is written out for as long as it finds room. -/
theorem keepsStep (inlinable : site.Inlinable ctx) (σ : CellStore) (depth : Nat) :
    KeepsStep ctx σ depth depth site.Matches := by
  intro a b related
  rw [Instance.turn_withRoom]
  rcases turnsAlike inlinable depth depth related with alike | ⟨-, cramped⟩ | ⟨less, -⟩
  · exact .inr alike
  · exact .inl cramped
  · exact absurd less (Nat.lt_irrefl depth)

/-- With room for one more call the caller does all that is written out. -/
theorem keepsStep_written (inlinable : site.Inlinable ctx) (σ : CellStore) (depth : Nat) :
    KeepsStep ctx σ depth (depth + 1) fun a b => site.Matches b a := by
  intro a b related
  rw [Instance.turn_withRoom]
  rcases turnsAlike inlinable (depth + 1) depth related with alike | ⟨more, -⟩ | ⟨-, cramped⟩
  · exact .inr alike.symm
  · exact absurd more (Nat.not_succ_le_self depth)
  · exact .inl cramped

end CallSite

/-- A call of a program is the same as the program written out in its caller: whatever the sink and the schedule,
all steps have the same results, errors without their frames, and ask the same of the sink. Only for lack of room
for the call may the caller fail where the other goes on. Room for one more call is enough for the caller wherever the
other finds room, and where the calls of the caller come to an end there is room enough for both. -/
theorem RenderContext.call_inlines (ctx : RenderContext) {callee : String} {entry : TemplateEntry} {body : Program}
    (registered : ctx.registry.lookup callee = .ok entry) (program : entry.body = .program body)
    (nonempty : body.steps ≠ []) {data : CallData}
    (inlinable : ∀ step ∈ body.steps, step.instruction.Inlinable data) (caller inlined : String)
    (pre post : List Step) (position : Option SourcePosition) (params injected : Record) (σ : CellStore) :
    let calls : Instance := .program ⟨caller, pre ++ ⟨.call callee data, position⟩ :: post, params, injected⟩ none
    let writesOut : Instance :=
      .program ⟨inlined, pre ++ (body.steps.map (Step.inline data) ++ post), params, injected⟩ none
    (∀ {S : Type} [Sink S] (s : S) (rounds : List (Round S)),
        ((RenderState.run ctx ⟨σ, calls, s⟩ rounds).map (RenderState.outline ctx) =
            (RenderState.run ctx ⟨σ, writesOut, s⟩ rounds).map (RenderState.outline ctx) ∨
          ∃ (front : List (RenderState S)) (last : RenderState S),
            RenderState.run ctx ⟨σ, calls, s⟩ rounds = front ++ [last] ∧ last.Cramped ctx ∧
            front.map (RenderState.outline ctx) <+:
              (RenderState.run ctx ⟨σ, writesOut, s⟩ rounds).map (RenderState.outline ctx)) ∧
        ((∀ x ∈ RenderState.run ctx ⟨σ, writesOut, s⟩ rounds, ¬ x.Cramped ctx) →
          let roomier := ctx.withRoom (ctx.callDepth + 1)
          (RenderState.run roomier ⟨σ, calls, s⟩ rounds).map (RenderState.outline roomier) =
              (RenderState.run ctx ⟨σ, writesOut, s⟩ rounds).map (RenderState.outline ctx) ∧
            ∀ x ∈ RenderState.run roomier ⟨σ, calls, s⟩ rounds, ¬ x.Cramped roomier)) ∧
      (calls.CallsEnd ctx σ →
        ∃ enough, ∀ room, enough ≤ room → let roomy := ctx.withRoom room
          ∀ {S : Type} [Sink S] (s : S) (rounds : List (Round S)),
            (RenderState.run roomy ⟨σ, writesOut, s⟩ rounds).map (RenderState.outline roomy) =
                (RenderState.run roomy ⟨σ, calls, s⟩ rounds).map (RenderState.outline roomy) ∧
              ∀ x ∈ RenderState.run roomy ⟨σ, writesOut, s⟩ rounds, ¬ x.Cramped roomy) := by
  intro calls writesOut
  let site : CallSite := ⟨caller, inlined, callee, data, position, body, post, params, injected⟩
  have fits (room : Nat) : site.Inlinable (ctx.withRoom room) :=
    ⟨⟨entry, registered, program⟩, nonempty, inlinable⟩
  have related : site.Matches calls writesOut := @CallSite.Matches.before site pre none (.none pre)
  refine ⟨fun s rounds => ⟨?_, fun roomy => ?_⟩, fun finite => ?_⟩
  · exact RenderState.runs_alike (fun σ => CallSite.keepsStep (fits ctx.callDepth) σ ctx.callDepth) related σ s rounds
  · exact RenderState.runs_same (fun σ => CallSite.keepsStep_written (fits ctx.callDepth) σ ctx.callDepth) related σ s
      rounds roomy
  · obtain ⟨enough, roomy⟩ := finite.exists_room
    refine ⟨enough, fun room more S _ s rounds => ?_⟩
    exact RenderState.runs_same (fun σ => CallSite.keepsStep (fits room) σ room) related σ s rounds
      (roomy room more s rounds)

/-- A greeting to whoever is passed as its parameter. -/
def addressProgram : Program := ⟨"address", [⟨.text "Dear ", none⟩, ⟨.print (.param "name") [], none⟩]⟩

/-- A call that lists its parameter twice, the second time with a value that is still to come. Room for one call is
enough for what is written out, and for the call it takes room for two. -/
theorem call_inlines_address :
    let ctx := RenderContext.ofPrograms [addressProgram] 1
    let roomier := ctx.withRoom 2
    let data := CallData.params [("name", .literal .null), ("name", .literal (.deferred ⟨0⟩))]
    let σ : CellStore := ⟨[⟨"name", .pending⟩]⟩
    let calls : Instance := .program ⟨"calls", [⟨.call "address" data, none⟩, ⟨.text "!", none⟩], .empty, .empty⟩ none
    let writesOut : Instance := .program ⟨"writesOut", [⟨.text "Dear ", none⟩,
      ⟨.print (.literal (.deferred ⟨0⟩)) [], none⟩, ⟨.text "!", none⟩], .empty, .empty⟩ none
    let rounds : List (Round OutputBuffer) := [⟨[], id⟩, ⟨[.set ⟨0⟩ (.string "Ann")], id⟩]
    ((RenderState.run roomier ⟨σ, calls, .empty⟩ rounds).map fun x => (x.result roomier).outcome.toOption) =
        [some (.detached ⟨0⟩), some .done] ∧
      (RenderState.run roomier ⟨σ, calls, .empty⟩ rounds).map (RenderState.outline roomier) =
        (RenderState.run ctx ⟨σ, writesOut, .empty⟩ rounds).map (RenderState.outline ctx) ∧
      ∃ enough, ∀ room, enough ≤ room → let roomy := ctx.withRoom room
        (RenderState.run roomy ⟨σ, writesOut, .empty⟩ rounds).map (RenderState.outline roomy) =
          (RenderState.run roomy ⟨σ, calls, .empty⟩ rounds).map (RenderState.outline roomy) := by
  intro ctx roomier data σ calls writesOut rounds
  have inlinable : ∀ step ∈ addressProgram.steps, step.instruction.Inlinable data := by
    intro step member
    simp only [addressProgram, List.mem_cons, List.not_mem_nil, or_false] at member
    rcases member with rfl | rfl
    · exact .inr fun passes => by cases passes
    · exact .inr fun passes => by cases passes
  have registered : ctx.registry.lookup "address" = .ok ⟨"address", default, .program addressProgram⟩ := rfl
  obtain ⟨runs, ends⟩ := RenderContext.call_inlines ctx registered rfl (List.cons_ne_nil _ _) inlinable "calls"
    "writesOut" [] [⟨.text "!", none⟩] none .empty .empty σ
  have roomy : ∀ x ∈ RenderState.run ctx ⟨σ, writesOut, .empty⟩ rounds, ¬ x.Cramped ctx :=
    RenderState.run_uncramped (Instance.fits_of_nestsWithin (by decide))
  have fits : calls.Fits ctx σ 2 := Instance.fits_of_nestsWithin (by decide)
  obtain ⟨enough, same⟩ := ends fits.callsEnd
  exact ⟨by decide, ((runs OutputBuffer.empty rounds).2 roomy).1, enough, fun room more =>
    (same room more OutputBuffer.empty rounds).1⟩

end TemplateEngine
