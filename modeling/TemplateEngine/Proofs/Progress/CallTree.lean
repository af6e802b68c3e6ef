import TemplateEngine.Proofs.Frames
import TemplateEngine.Proofs.Selections
import TemplateEngine.Proofs.Templates

namespace TemplateEngine

/-- The instructions of a program, and behind each call the instructions of its callee. -/
inductive CallTree
  | done
  | plain (rest : CallTree)
  | call (callee rest : CallTree)
  /-- A delegate call with what it has selected. Its output may pass through directives. -/
  | delegate (selection : Selection) (escaped : Bool) (callee rest : CallTree)

namespace CallTree

def length : CallTree → Nat
  | .done => 0
  | .plain rest | .call _ rest | .delegate _ _ _ rest => rest.length + 1

/-- How often the callees ask. -/
def inner : CallTree → Nat
  | .done => 0
  | .plain rest => rest.inner
  | .call callee rest => (callee.length - 1 + callee.inner) + rest.inner
  | .delegate _ true _ rest => rest.inner
  | .delegate _ false callee rest => (callee.length - 1 + callee.inner) + rest.inner

/-- How often a program asks, its callees included: between two instructions each, and never behind the last. -/
def pauses (tree : CallTree) : Nat := tree.length - 1 + tree.inner

/-- What the delegate calls select, in the order in which they are executed. -/
def selections : CallTree → List Selection
  | .done => []
  | .plain rest => rest.selections
  | .call callee rest => callee.selections ++ rest.selections
  | .delegate selection _ callee rest => selection :: (callee.selections ++ rest.selections)

theorem pauses_plain (rest : CallTree) : (plain rest).pauses = rest.length + rest.inner := rfl

theorem pauses_call (callee rest : CallTree) :
    (call callee rest).pauses = callee.pauses + (rest.length + rest.inner) :=
  Nat.add_left_comm ..

theorem pauses_delegate (selection : Selection) (escaped : Bool) (callee rest : CallTree) :
    (delegate selection escaped callee rest).pauses =
      (if escaped then 0 else callee.pauses) + (rest.length + rest.inner) := by
  cases escaped with
  | true => exact (Nat.zero_add _).symm
  | false => exact Nat.add_left_comm ..

/-- Behind the first instruction of several a question is asked. -/
theorem pauses_of_pos {tree : CallTree} (more : 0 < tree.length) : tree.pauses + 1 = tree.length + tree.inner := by
  rw [pauses]
  omega

/-- A tree of calls that instructions can lead to. Which one it is depends on the variants of the delegate calls. -/
inductive Of (ctx : RenderContext) : List Step → CallTree → Prop
  | done : Of ctx [] .done
  | plain {first rest tree} (quiet : first.instruction.passes = none) (later : Of ctx rest tree) :
      Of ctx (first :: rest) (.plain tree)
  | call {name data position rest tree callee} {entry : TemplateEntry} {p : Program}
      (found : ctx.registry.lookup name = .ok entry) (body : entry.body = .program p) (inside : Of ctx p.steps callee)
      (later : Of ctx rest tree) : Of ctx (⟨.call name data, position⟩ :: rest) (.call callee tree)
  | delegate {variant position rest tree callee} {target : DelegateCall} {entry : TemplateEntry} {p : Program}
      (selected : ctx.delegates.select? target.callee variant = some entry) (body : entry.body = .program p)
      (inside : Of ctx p.steps callee) (later : Of ctx rest tree) :
      Of ctx (⟨.delegateCall target, position⟩ :: rest)
        (.delegate ⟨target.callee, variant, some entry.name⟩ (!target.escapers.isEmpty) callee tree)
  /-- Where there is no implementation, an empty template stands in if the call allows it. -/
  | standIn {variant position rest tree} {target : DelegateCall}
      (nothing : ctx.delegates.select? target.callee variant = none) (allowed : target.allowEmpty = true)
      (later : Of ctx rest tree) :
      Of ctx (⟨.delegateCall target, position⟩ :: rest)
        (.delegate ⟨target.callee, variant, some ""⟩ (!target.escapers.isEmpty) .done tree)

variable {ctx : RenderContext}

theorem Of.length_eq {steps : List Step} {tree : CallTree} (of : Of ctx steps tree) : tree.length = steps.length := by
  induction of with
  | done => rfl
  | plain _ _ ih => exact congrArg (· + 1) ih
  | call _ _ _ _ _ ih => exact congrArg (· + 1) ih
  | delegate _ _ _ _ _ ih => exact congrArg (· + 1) ih
  | standIn _ _ _ ih => exact congrArg (· + 1) ih

/-- The selections of the delegate calls determine the calls. -/
theorem Of.unique {steps : List Step} {tree tree' : CallTree} (of : Of ctx steps tree) (of' : Of ctx steps tree')
    {more more' : List Selection} (same : tree.selections ++ more = tree'.selections ++ more') :
    tree = tree' ∧ more = more' := by
  induction of generalizing tree' more more' with
  | done =>
    cases of'
    exact ⟨rfl, same⟩
  | plain quiet _ ih =>
    cases of' with
    | plain _ later' =>
      obtain ⟨rfl, rest⟩ := ih later' same
      exact ⟨rfl, rest⟩
    | call | delegate | standIn => cases quiet
  | call found body _ _ callee rest =>
    cases of' with
    | plain quiet => cases quiet
    | call found' body' inside' later' =>
      obtain rfl := Except.ok.inj (found.symm.trans found')
      obtain rfl := TemplateBody.program.inj (body.symm.trans body')
      simp only [selections, List.append_assoc] at same
      obtain ⟨rfl, behind⟩ := callee inside' same
      obtain ⟨rfl, after⟩ := rest later' behind
      exact ⟨rfl, after⟩
  | delegate selected body _ _ callee rest =>
    cases of' with
    | plain quiet => cases quiet
    | delegate selected' body' inside' later' =>
      simp only [selections, List.cons_append, List.append_assoc, List.cons.injEq, Selection.mk.injEq] at same
      obtain ⟨⟨-, rfl, -⟩, inner⟩ := same
      obtain rfl := Option.some.inj (selected.symm.trans selected')
      obtain rfl := TemplateBody.program.inj (body.symm.trans body')
      obtain ⟨rfl, behind⟩ := callee inside' inner
      obtain ⟨rfl, after⟩ := rest later' behind
      exact ⟨rfl, after⟩
    | standIn nothing' =>
      simp only [selections, List.cons_append, List.cons.injEq, Selection.mk.injEq] at same
      obtain ⟨⟨-, rfl, -⟩, -⟩ := same
      rw [selected] at nothing'
      cases nothing'
  | standIn nothing _ _ rest =>
    cases of' with
    | plain quiet => cases quiet
    | delegate selected' =>
      simp only [selections, List.cons_append, List.cons.injEq, Selection.mk.injEq] at same
      obtain ⟨⟨-, rfl, -⟩, -⟩ := same
      rw [nothing] at selected'
      cases selected'
    | standIn nothing' _ later' =>
      simp only [selections, List.cons_append, List.nil_append, List.cons.injEq, Selection.mk.injEq] at same
      obtain ⟨⟨-, rfl, -⟩, behind⟩ := same
      obtain ⟨rfl, after⟩ := rest later' behind
      exact ⟨rfl, after⟩

end CallTree

end TemplateEngine
