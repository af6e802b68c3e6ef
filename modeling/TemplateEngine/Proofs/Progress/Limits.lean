import TemplateEngine.Proofs.Backpressure
import TemplateEngine.Proofs.Errors.WholeOutputs
import TemplateEngine.Proofs.Progress.Bound
import TemplateEngine.Proofs.Progress.Remaining

namespace TemplateEngine

/-- A sink that always wants a pause declines none. -/
theorem Instance.Trace.declined_of_full {ctx : RenderContext} {σ : CellStore} {depth : Nat} {S : Type} [Sink S]
    (full : ∀ s : S, (Sink.isFull s).1 = true) {template : Instance} {s : S} {log : List SinkEvent}
    {result : StepResult Instance S} (trace : template.Trace ctx σ depth s log result) :
    SinkEvent.declined log = 0 := by
  induction trace with
  | await | fail | refused => rfl
  | @finished _ output => rw [← List.append_nil (Output.events output), SinkEvent.declined_events]; rfl
  | @rested _ output => rw [← List.append_nil (Output.events output), SinkEvent.declined_events]; rfl
  | full => rw [SinkEvent.declined_events]; rfl
  | @further _ _ _ _ after _ _ _ _ _ answer =>
    have wanted := full after
    rw [answer] at wanted
    cases wanted
  | onward _ _ _ ih => rwa [SinkEvent.declined_events]

namespace RenderState

variable {ctx : RenderContext} {S : Type} [Sink S]

/-- A run without errors that no cell holds up is limited at all its steps, but for the last one if that is done. -/
theorem exists_outcomes {rounds : List (Round S)} {x : RenderState S}
    (clear : ∀ y ∈ x.run ctx rounds,
      (∀ e, (y.result ctx).outcome ≠ .error e) ∧ ∀ c, (y.result ctx).outcome ≠ .ok (.detached c)) :
    ∃ last, (x.run ctx rounds).map (fun y => (y.result ctx).outcome) =
        List.replicate (limited ctx (x.run ctx rounds)) (.ok .limited) ++ last ∧
      (last = [] ∧ limited ctx (x.run ctx rounds) = rounds.length ∨
        last = [.ok .done] ∧ Completed ctx (x.run ctx rounds)) := by
  induction rounds generalizing x with
  | nil => exact ⟨[], rfl, .inl ⟨rfl, rfl⟩⟩
  | cons round rounds ih =>
    rw [run_cons] at clear ⊢
    obtain ⟨unfailed, undetached⟩ := clear _ List.mem_cons_self
    cases outcome : ((x.prepare round).result ctx).outcome with
    | error e => exact absurd outcome (unfailed e)
    | ok status =>
      cases status with
      | detached c => exact absurd outcome (undetached c)
      | done =>
        refine ⟨[.ok .done], ?_, .inr ⟨rfl, _, List.mem_cons_self, outcome⟩⟩
        simp [StepResult.resumable, limited, StepResult.isLimited, outcome]
      | limited =>
        have resumable : ((x.prepare round).result ctx).resumable = true := by simp [StepResult.resumable, outcome]
        rw [if_pos resumable] at clear ⊢
        obtain ⟨last, outcomes, ends⟩ := ih fun y member => clear y (List.mem_cons_of_mem _ member)
        have counted : limited ctx (x.prepare round :: ((x.prepare round).resume ctx).run ctx rounds) =
            limited ctx (((x.prepare round).resume ctx).run ctx rounds) + 1 :=
          List.countP_cons_of_pos (by simp [StepResult.isLimited, outcome])
        refine ⟨last, ?_, ?_⟩
        · rw [counted, List.map_cons, outcomes, outcome, List.replicate_succ, List.cons_append]
        · rcases ends with ⟨nothing, all⟩ | ⟨done, y, member, ended⟩
          · exact .inl ⟨nothing, by rw [counted, all, List.length_cons]⟩
          · exact .inr ⟨done, y, List.mem_cons_of_mem _ member, ended⟩

theorem declined_of_full (full : ∀ s : S, (Sink.isFull s).1 = true) (run : List (RenderState S)) :
    declined ctx run = 0 := by
  induction run with
  | nil => rfl
  | cons x run ih =>
    rw [declined, List.flatMap_cons, SinkEvent.declined, List.countP_append]
    exact congrArg₂ (· + ·) ((x.trace ctx).declined_of_full full) ih

end RenderState

open RenderState

theorem RenderState.selects_unique (ctx : RenderContext) (S : Type) [Sink S] :
    Relator.RightUnique fun (x : RenderState S) chosen => x.Selects ctx chosen := by
  rintro x chosen chosen' ⟨turns, same⟩ ⟨turns', same'⟩
  rw [← same turns', ← same' turns, Nat.add_comm]

/-- The calls of a render that is done: those of its program, with the delegates that its steps have selected. -/
structure CallTree.Chosen {S : Type} [Sink S] (ctx : RenderContext) (p : Program) (run : List (RenderState S))
    (tree : CallTree) : Prop where
  of : CallTree.Of ctx p.steps tree
  selects : ∃ chosen, List.Forall₂ (Selects ctx) run chosen ∧ tree.selections = chosen.flatten

theorem CallTree.Chosen.unique {S : Type} [Sink S] {ctx : RenderContext} {p : Program} {run : List (RenderState S)}
    {tree tree' : CallTree} (first : Chosen ctx p run tree) (second : Chosen ctx p run tree') : tree' = tree := by
  obtain ⟨chosen, selects, same⟩ := first.selects
  obtain ⟨chosen', selects', same'⟩ := second.selects
  obtain rfl : chosen = chosen' := List.right_unique_forall₂' (selects_unique ctx S) selects selects'
  exact (second.of.unique first.of (congrArg (· ++ []) (same'.trans same.symm))).1

section Pauses

variable {ctx : RenderContext} {root : TemplateEntry} {p : Program} {params injected : Record} {S : Type} [Sink S]
variable {x : RenderState S} {rounds : List (Round S)}

theorem RenderContext.ReachesPrograms.start_madeOf (programs : ctx.ReachesPrograms root) (params injected : Record) :
    (root.start params injected).MadeOf (.reached ctx (fun _ => True) root) :=
  RenderContext.Reaches.root.start_madeOf programs.reachesOnly (fun _ _ _ => trivial) fun _ _ _ => trivial

theorem RenderContext.ReachesPrograms.limited_le (programs : ctx.ReachesPrograms root) (body : root.body = .program p)
    (start : x.template = root.start params injected) :
    limited ctx (x.run ctx rounds) ≤ ctx.mostPauses ctx.callDepth p.steps := by
  have hereditary (σ : CellStore) : Hereditary ctx σ (.reached ctx (fun _ => True) root) :=
    programs.reachesOnly.hereditary trivial
  have bounded : limited ctx (x.run ctx rounds) ≤ x.template.mostPauses ctx ctx.callDepth :=
    run_bounded hereditary (fun σ template made => Instance.turn_atMost (hereditary σ) made _)
      (start ▸ programs.start_madeOf params injected)
  rw [start, TemplateEntry.start, body] at bounded
  exact Instance.mostPauses_program ctx.callDepth ⟨p.name, p.steps, params, injected⟩ ▸ bounded

theorem RenderContext.ReachesPrograms.exists_chosen (programs : ctx.ReachesPrograms root)
    (body : root.body = .program p) (start : x.template = root.start params injected)
    (completed : Completed ctx (x.run ctx rounds)) :
    ∃ tree, CallTree.Chosen ctx p (x.run ctx rounds) tree ∧
      limited ctx (x.run ctx rounds) + declined ctx (x.run ctx rounds) = tree.pauses := by
  have only := programs.reachesOnly
  obtain ⟨chosen, selects, remains⟩ : ∃ chosen, List.Forall₂ (Selects ctx) (x.run ctx rounds) chosen ∧
      (Completed ctx (x.run ctx rounds) → Instance.Remains ctx x.template chosen.flatten
        (limited ctx (x.run ctx rounds) + declined ctx (x.run ctx rounds))) :=
    run_accounted (fun _ => only.hereditary trivial) (fun _ _ made => Instance.turn_remains trivial only made)
      (start ▸ programs.start_madeOf params injected)
  have left := remains completed
  rw [start, TemplateEntry.start, body] at left
  obtain ⟨tree, of, selections, pauses⟩ := left.exists_tree
  exact ⟨tree, ⟨of, chosen, selects, selections.symm⟩, pauses⟩

/-- A render that nothing holds up but its sink, and that goes on for long enough, pauses as its tree of calls says. -/
theorem RenderContext.ReachesPrograms.exists_pauses (programs : ctx.ReachesPrograms root)
    (body : root.body = .program p) (start : x.template = root.start params injected)
    (long : ctx.mostPauses ctx.callDepth p.steps < rounds.length) (full : declined ctx (x.run ctx rounds) = 0)
    (clear : ∀ y ∈ x.run ctx rounds,
      (∀ e, (y.result ctx).outcome ≠ .error e) ∧ ∀ c, (y.result ctx).outcome ≠ .ok (.detached c)) :
    ∃ tree, CallTree.Chosen ctx p (x.run ctx rounds) tree ∧
      (x.run ctx rounds).map (fun y => (y.result ctx).outcome) =
        List.replicate tree.pauses (.ok .limited) ++ [.ok .done] := by
  obtain ⟨last, outcomes, ⟨-, all⟩ | ⟨rfl, completed⟩⟩ := exists_outcomes clear
  · have endless : limited ctx (x.run ctx rounds) = rounds.length := all
    have bounded : limited ctx (x.run ctx rounds) ≤ _ := programs.limited_le body start
    omega
  · obtain ⟨tree, chosen, pauses⟩ := programs.exists_chosen body start completed
    rw [full, Nat.add_zero] at pauses
    exact ⟨tree, chosen, pauses ▸ outcomes⟩

end Pauses

/-- A program that comes to programs only has a tree of calls for the delegates that it selects, and asks its sink
between any two instructions of the tree that follow each other outside directives. When its render is done the sink has
each time declined a pause or been given one; if it declines none and nothing else holds up the render, it is given
exactly that many before the render is done. A tree of calls that ends finds room for all its calls, so that with enough
room nothing but a failing instruction makes an error. Whatever happens, no render is limited more often than a bound
that depends on the programs alone. -/
theorem RenderContext.pauses_exact (ctx : RenderContext) {root : TemplateEntry} (programs : ctx.ReachesPrograms root)
    {p : Program} (body : root.body = .program p) (params injected : Record) (σ : CellStore) {S : Type} [Sink S] (s : S)
    (rounds : List (Round S)) :
    let run := RenderState.run ctx ⟨σ, root.start params injected, s⟩ rounds
    limited ctx run ≤ ctx.mostPauses ctx.callDepth p.steps ∧
      ((∀ s : S, (Sink.isFull s).1 = true) → declined ctx run = 0) ∧
      (∀ tree tree', CallTree.Chosen ctx p run tree → CallTree.Chosen ctx p run tree' → tree' = tree) ∧
      (Completed ctx run →
        ∃ tree, CallTree.Chosen ctx p run tree ∧ limited ctx run + declined ctx run = tree.pauses) ∧
      (ctx.mostPauses ctx.callDepth p.steps < rounds.length → declined ctx run = 0 →
        (∀ x ∈ run, (∀ e, (x.result ctx).outcome ≠ .error e) ∧ ∀ c, (x.result ctx).outcome ≠ .ok (.detached c)) →
        ∃ tree, CallTree.Chosen ctx p run tree ∧
          run.map (fun x => (x.result ctx).outcome) =
            List.replicate tree.pauses (.ok .limited) ++ [.ok .done]) ∧
      ((root.start params injected).CallsEnd ctx σ → ∃ enough, ∀ room, enough ≤ room →
        let roomy := ctx.withRoom room
        let run := RenderState.run roomy ⟨σ, root.start params injected, s⟩ rounds
        roomy.mostPauses room p.steps < rounds.length → declined roomy run = 0 →
        (∀ x ∈ run, (∀ e, (x.result roomy).outcome = .error e → e.kind = .callsTooDeep) ∧
          ∀ c, (x.result roomy).outcome ≠ .ok (.detached c)) →
        ∃ tree, CallTree.Chosen roomy p run tree ∧
          run.map (fun x => (x.result roomy).outcome) =
            List.replicate tree.pauses (.ok .limited) ++ [.ok .done]) := by
  refine ⟨programs.limited_le body rfl, fun full => declined_of_full full _, fun tree tree' => CallTree.Chosen.unique,
    programs.exists_chosen body rfl, programs.exists_pauses body rfl, fun finite => ?_⟩
  obtain ⟨enough, uncramped⟩ := finite.exists_room
  refine ⟨enough, fun room more long full clear => ?_⟩
  refine (programs.withRoom room).exists_pauses body rfl long full fun x member => ?_
  obtain ⟨failing, undetached⟩ := clear x member
  refine ⟨fun e failed => ?_, undetached⟩
  have kind := failing e failed
  exact uncramped room more s rounds x member (by rw [Cramped, failed, ← kind]; rfl)

/-- The context of notes, with a program of two texts beside them. -/
def pairLetterContext : RenderContext :=
  { noteContext with registry := (RenderContext.ofPrograms [pairProgram] 3).registry }

theorem pairLetterContext_onlyPrograms : pairLetterContext.OnlyPrograms := by
  rintro entry (registered | selected)
  · exact RenderContext.onlyPrograms_ofPrograms [pairProgram] 3 entry (.inl registered)
  · exact noteContext_onlyPrograms entry (.inr selected)

/-- A letter with the two texts, and with a note as it is and behind a directive. -/
def pairLetter : Program :=
  let note (escapers : List String) : Instruction :=
    .delegateCall
      ⟨"note", .literal (.ready .null), false, .params [("name", .literal (.ready (.string "Ann")))], escapers⟩
  ⟨"letter", [⟨.text "Dear ", none⟩, ⟨.call "pair" .none, none⟩, ⟨note [], none⟩, ⟨note ["|escapeHtml"], none⟩]⟩

/-- Three pauses between the instructions of the letter, one between the two texts and two in the first note. -/
theorem pauses_exact_letter :
    let root : TemplateEntry := ⟨"letter", default, .program pairLetter⟩
    let start : RenderState LimitedBuffer := ⟨.empty, root.start .empty .empty, .new 0⟩
    let run := start.run pairLetterContext (List.replicate 9 ⟨[], id⟩)
    ∃ tree, CallTree.Chosen pairLetterContext pairLetter run tree ∧ tree.pauses = 6 ∧
      run.map (fun x => (x.result pairLetterContext).outcome) = List.replicate 6 (.ok .limited) ++ [.ok .done] := by
  intro root start run
  have shown : run.map (fun x => (x.result pairLetterContext).outcome.toOption) =
      List.replicate 6 (some .limited) ++ [some .done] := by decide +kernel
  have clear : ∀ x ∈ run, (∀ e, (x.result pairLetterContext).outcome ≠ .error e) ∧
      ∀ c, (x.result pairLetterContext).outcome ≠ .ok (.detached c) := by
    intro x member
    have among : (x.result pairLetterContext).outcome.toOption ∈ List.replicate 6 (some .limited) ++ [some .done] :=
      shown ▸ List.mem_map_of_mem member
    constructor
    · intro e failed
      simp [failed, Except.toOption] at among
    · intro c detached
      simp [detached, Except.toOption] at among
  have programs : pairLetterContext.ReachesPrograms root := pairLetterContext_onlyPrograms.reachesPrograms rfl
  obtain ⟨-, -, -, -, exact', -⟩ := pairLetterContext.pauses_exact programs rfl .empty .empty .empty
    (LimitedBuffer.new 0) (List.replicate 9 ⟨[], id⟩)
  obtain ⟨tree, chosen, outcomes⟩ := exact' (by decide +kernel) (by decide +kernel) clear
  have six : tree.pauses = 6 := by
    have lengths := congrArg List.length outcomes
    have seven : run.length = 7 := by decide +kernel
    rw [List.length_map, List.length_append, List.length_replicate] at lengths
    exact Nat.succ.inj (lengths.symm.trans seven)
  exact ⟨tree, chosen, six, six ▸ outcomes⟩

end TemplateEngine
