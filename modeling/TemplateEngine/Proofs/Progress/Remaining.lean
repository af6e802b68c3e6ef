import TemplateEngine.Proofs.Progress.Accounts
import TemplateEngine.Proofs.Progress.CallTree
import TemplateEngine.Proofs.Reached

namespace TemplateEngine

open CallTree

namespace Instance

/-- A template is still to select some delegates and to ask its sink so many times, on some way to its end. -/
inductive Remains (ctx : RenderContext) : Instance → List Selection → Nat → Prop
  | empty : Remains ctx .empty [] 0
  | program {frame tree} (of : Of ctx frame.todo tree) : Remains ctx (.program frame none) tree.selections tree.pauses
  | calling {frame first rest callee selected n tree} (todo : frame.todo = first :: rest)
      (inside : Remains ctx callee selected n) (later : Of ctx rest tree) :
      Remains ctx (.program frame (some callee)) (selected ++ tree.selections) (n + (tree.length + tree.inner))
  /-- Nothing is asked behind directives. -/
  | escaped {w : Escaped Instance} {selected n} (inside : Remains ctx w.inner selected n) :
      Remains ctx (.escaped w) selected 0

end Instance

open Instance

variable {ctx : RenderContext} {σ : CellStore} {params injected : Record} {template : Instance}
variable {frame : Activation} {first : Step} {rest : List Step} {chosen : List Selection}

theorem Instance.Remains.exists_tree {n : Nat} (remains : Remains ctx (.program frame none) chosen n) :
    ∃ tree, Of ctx frame.todo tree ∧ chosen = tree.selections ∧ n = tree.pauses := by
  cases remains with
  | @program _ tree of => exact ⟨tree, of, rfl, rfl⟩

theorem TemplateEntry.start_remains {entry : TemplateEntry} (program : ∃ p : Program, entry.body = .program p)
    {selected : List Selection} {n : Nat} (remains : (entry.start params injected).Remains ctx selected n) :
    ∃ p tree, entry.body = .program p ∧ Of ctx p.steps tree ∧ selected = tree.selections ∧ n = tree.pauses := by
  obtain ⟨p, body⟩ := program
  simp only [start, body] at remains
  obtain ⟨tree, of, selections, pauses⟩ := remains.exists_tree
  exact ⟨p, tree, body, of, selections, pauses⟩

theorem Instance.Remains.of_tree {steps : List Step} {tree : CallTree} (of : Of ctx steps tree) {n : Nat}
    {name : String} (selections : chosen = tree.selections) (pauses : n = tree.pauses) :
    Remains ctx (.program ⟨name, steps, params, injected⟩ none) chosen n := by
  subst selections pauses
  exact .program of

/-- What a delegate call selects is what its tree says, and so is what it leaves. -/
theorem DelegateCall.exists_tree {target : DelegateCall} {variant : String} {resolved : ResolvedCallee} {data : Record}
    (programs : ∀ entry, (Instruction.delegateCall target).MayCall ctx entry → ∃ p : Program, entry.body = .program p)
    (selected : ctx.selectDelegate target.callee variant target.allowEmpty data injected = .ok resolved)
    {tree : CallTree} (later : Of ctx rest tree) (position : Option SourcePosition) {n : Nat}
    (inside : resolved.template.Remains ctx chosen n) :
    ∃ callee, Of ctx (⟨.delegateCall target, position⟩ :: rest)
        (.delegate ⟨target.callee, variant, some resolved.name⟩ (!target.escapers.isEmpty) callee tree) ∧
      chosen = callee.selections ∧ n = callee.pauses := by
  rcases RenderContext.selectDelegate_eq_ok selected with ⟨entry, found, rfl⟩ | ⟨nothing, rfl⟩
  · obtain ⟨p, callee, body, of, selections, pauses⟩ := entry.start_remains (programs _ (.delegate found)) inside
    exact ⟨callee, .delegate found body of later, selections, pauses⟩
  · have allowed : target.allowEmpty = true := by
      rw [RenderContext.selectDelegate, nothing] at selected
      by_contra forbidden
      simp [forbidden] at selected
    cases inside
    exact ⟨.done, .standIn nothing allowed later, rfl, rfl⟩

/-- A call that starts leaves what its callee leaves and what is left behind it. -/
theorem Instruction.enter_remains {name : String} {callee : Instance}
    (programs : ∀ entry, first.instruction.MayCall ctx entry → ∃ p : Program, entry.body = .program p)
    (entered : first.instruction.effect ctx σ params injected = .ok (.enter callee)) {n : Nat}
    (inside : callee.Remains ctx chosen n) {tree : CallTree} (later : Of ctx rest tree) :
    Remains ctx (.program ⟨name, first :: rest, params, injected⟩ none)
      ((first.instruction.selection? ctx σ params injected).toList ++ (chosen ++ tree.selections))
      (n + (tree.length + tree.inner)) := by
  obtain ⟨instruction, position⟩ := first
  cases instruction with
  | text | css | xid | print | printCall | message => exact absurd entered (effect_ne_enter rfl callee)
  | call target data =>
    obtain ⟨entry, found, rfl⟩ := call_enters entered
    obtain ⟨p, inner, body, of, rfl, rfl⟩ := entry.start_remains (programs _ (.call found)) inside
    exact .of_tree (.call found body of later) rfl (pauses_call ..).symm
  | delegateCall target =>
    obtain ⟨variant, resolved, read, selected, wrapped⟩ := DelegateCall.start_eq_ok (delegateCall_enters entered)
    have selection : target.selection? ctx σ params injected =
        some ⟨target.callee, variant.toVariant σ, some resolved.name⟩ := by
      simp [DelegateCall.selection?, read, selected, Except.toOption]
    simp only [Instruction.selection?, selection, Option.toList_some, List.singleton_append]
    rcases wrapped with ⟨plain, rfl⟩ | ⟨directives, escaped, -, rfl⟩
    · obtain ⟨inner, of, rfl, rfl⟩ := DelegateCall.exists_tree programs selected later position inside
      refine .of_tree of rfl ?_
      simp [pauses_delegate, plain]
    · cases inside with
      | escaped inside =>
        obtain ⟨inner, of, rfl, -⟩ := DelegateCall.exists_tree programs selected later position inside
        refine .of_tree of rfl ?_
        simp [pauses_delegate, escaped]

/-- What does anything but start a callee is not a call. -/
theorem Instruction.passes_of_effect {instruction : Instruction} {effect : Effect}
    (worked : instruction.effect ctx σ params injected = .ok effect) (quiet : ∀ callee, effect ≠ .enter callee) :
    instruction.passes = none := by
  by_contra calls
  obtain ⟨callee, same⟩ := effect_eq_enter calls worked
  exact quiet callee same

theorem Instruction.selection?_of_quiet {instruction : Instruction} (quiet : instruction.passes = none) :
    instruction.selection? ctx σ params injected = none := by
  cases instruction with
  | text | css | xid | print | printCall | message | call => rfl
  | delegateCall => cases quiet

/-- A delegate call that waits for its variant has not selected anything. -/
theorem Instruction.selection?_of_awaits {instruction : Instruction} {c : CellId}
    (awaits : instruction.effect ctx σ params injected = .error (.awaits c)) :
    instruction.selection? ctx σ params injected = none := by
  cases instruction with
  | text | css | xid | print | printCall | message | call => rfl
  | delegateCall target =>
    have waiting := halts_singleton.mp (effect_eq_awaits.mp awaits)
    rw [Instruction.selection?, DelegateCall.selection?, ValueRef.read_eq_awaits.mpr waiting]
    rfl

namespace Activation

/-- An instruction that is completed leaves what is left behind it, and a question if that is anything at all. -/
theorem complete_accounts (output : Option Output)
    (leaves : ∀ tree, Of ctx rest tree → template.Remains ctx (chosen ++ tree.selections) (tree.length + tree.inner)) :
    (frame.complete rest none output).Accounts (Remains ctx) template chosen := by
  cases rest with
  | nil =>
    have last : template.Remains ctx chosen 0 := by
      simpa [CallTree.selections, CallTree.length, CallTree.inner] using leaves .done .done
    exact last
  | cons second rest =>
    intro later n remains
    obtain ⟨tree, of, rfl, rfl⟩ := remains.exists_tree
    have more : 0 < tree.length := of.length_eq ▸ Nat.succ_pos rest.length
    rw [pauses_of_pos more]
    exact leaves tree of

/-- A call leaves what its callee leaves and what is left behind it. -/
theorem relay_accounts {callee : Instance} {selected : List Selection} {turn : Turn}
    (accounts : turn.Accounts (Remains ctx) callee selected)
    (leaves : ∀ later n tree, callee.Remains ctx later n → Of ctx rest tree →
      template.Remains ctx (chosen ++ (later ++ tree.selections)) (n + (tree.length + tree.inner))) :
    (frame.relay first rest turn).Accounts (Remains ctx) template (chosen ++ selected) := by
  have inside {next : Instance} {later : List Selection} {n : Nat} (m : Nat)
      (remains : Remains ctx (.program { frame with todo := first :: rest } (some next)) later n)
      (before : ∀ later n, next.Remains ctx later n → callee.Remains ctx (selected ++ later) (n + m)) :
      template.Remains ctx (chosen ++ selected ++ later) (n + m) := by
    cases remains with
    | @calling _ _ _ _ left n tree todo inner of =>
      obtain ⟨rfl, rfl⟩ := List.cons.inj todo
      rw [List.append_assoc, ← List.append_assoc selected, Nat.add_right_comm]
      exact leaves _ _ tree (before left n inner) of
  cases turn with
  | await c stopped => exact fun later n remains => inside 0 remains accounts
  | fail e stopped => trivial
  | act output pace next =>
    cases pace with
    | finished =>
      refine complete_accounts _ fun tree of => ?_
      simpa only [List.append_assoc, Nat.zero_add] using leaves selected 0 tree accounts of
    | asking => exact fun later n remains => inside 1 remains accounts
    | onward => exact fun later n remains => inside 0 remains accounts
    | resting => exact accounts.elim

end Activation

/-- Behind directives the same delegates are selected, but nothing is asked. -/
theorem Escaped.turn_accounts {w : Escaped Instance} {turn : Turn}
    (accounts : turn.Accounts (Remains ctx) w.inner chosen) :
    (w.turn σ turn).Accounts (Remains ctx) (.escaped w) chosen := by
  cases turn with
  | await c inner =>
    intro later n remains
    cases remains with
    | escaped inside => exact .escaped (accounts _ _ inside)
  | fail e inner => trivial
  | act output pace next =>
    cases pace with
    | finished =>
      simp only [turn, deliver]
      split
      · trivial
      · exact .escaped accounts
    | asking | onward =>
      intro later n remains
      cases remains with
      | escaped inside => exact .escaped (accounts _ _ inside)
    | resting => exact accounts.elim

/-- The selections and the questions of a turn, and what is left behind it, are what was left before. -/
theorem Instance.turn_remains {q : Slot → Prop} {root : TemplateEntry} (null : q Slot.null)
    (only : ctx.ReachesOnly q root) {depth : Nat} {template : Instance} (made : template.MadeOf (.reached ctx q root)) :
    (template.turn ctx σ depth).Accounts (Remains ctx) template (template.selections ctx σ depth) := by
  induction depth generalizing template with
  | zero => trivial
  | succ depth ih =>
    cases made with
    | empty => exact .empty
    | escaped _ inside => exact Escaped.turn_accounts (ih inside)
    | @calling frame callee holds atCall inside =>
      obtain ⟨name, todo, params, injected⟩ := frame
      cases todo with
      | nil => exact absurd atCall AtCall.not_nil
      | cons first rest =>
        have running := Step.inFlight_of_calls (AtCall.cons.mp atCall callee rfl) (some callee)
        have relayed : (Activation.relay ⟨name, first :: rest, params, injected⟩ first rest
            (callee.turn ctx σ depth)).Accounts (Remains ctx) (.program ⟨name, first :: rest, params, injected⟩ callee)
              ([] ++ callee.selections ctx σ depth) :=
          Activation.relay_accounts (ih inside) fun later n tree remains of => .calling rfl remains of
        rw [turn, Activation.turn_inFlight ctx σ _ _ rest running]
        simpa only [selections, Activation.selections, running, List.nil_append] using relayed
    | @program frame holds =>
      obtain ⟨name, todo, params, injected⟩ := frame
      cases todo with
      | nil => exact .of_tree .done rfl rfl
      | cons first rest =>
        have completed {effect : Effect} (worked : first.instruction.effect ctx σ params injected = .ok effect)
            (own : ∀ callee, effect ≠ .enter callee) (output : Option Output) :
            (Activation.complete ⟨name, first :: rest, params, injected⟩ rest none output).Accounts (Remains ctx)
              (.program ⟨name, first :: rest, params, injected⟩ none)
              ((first.instruction.selection? ctx σ params injected).toList ++ []) := by
          have quiet := Instruction.passes_of_effect worked own
          rw [Instruction.selection?_of_quiet quiet]
          exact Activation.complete_accounts _ fun tree of => .of_tree (.plain quiet of) rfl (pauses_plain tree).symm
        simp only [turn, Activation.turn, selections, Activation.selections, Step.inFlight_none]
        cases worked : first.instruction.effect ctx σ params injected with
        | error obstacle =>
          cases obstacle with
          | awaits c =>
            rw [Instruction.selection?_of_awaits worked]
            exact fun later n remains => remains
          | fails e => trivial
        | ok effect =>
          cases effect with
          | write text | writeMessage text | silent => exact completed worked (by simp) _
          | enter callee =>
            have entered : callee.MadeOf (.reached ctx q root) := @Hereditary.enter _ σ _ (only.hereditary null)
              ⟨name, first :: rest, params, injected⟩ first rest callee holds worked
            have programs (entry : TemplateEntry) (calls : first.instruction.MayCall ctx entry) :
                ∃ p : Program, entry.body = .program p := by
              obtain ⟨p, body, -⟩ := only entry (holds.calls first List.mem_cons_self entry calls)
              exact ⟨p, body⟩
            exact Activation.relay_accounts (ih entered) fun later n tree remains of =>
              Instruction.enter_remains programs worked remains of

end TemplateEngine
