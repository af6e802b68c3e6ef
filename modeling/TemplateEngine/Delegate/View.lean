import TemplateEngine.Delegate.Table

namespace TemplateEngine

/-- A delegate table together with the packages active for a render. No two active packages implement the
same delegate in the same variant. -/
structure DelegateView (α : Type) where
  table : DelegateTable α
  active : NameSet
  unambiguous : table.conflict? active = none

namespace DelegateView

variable {α : Type}

/-- Binds a table to the active packages, unless they are in conflict. -/
def bind (table : DelegateTable α) (active : NameSet) : Except ErrorKind (DelegateView α) :=
  match h : table.conflict? active with
  | none => .ok ⟨table, active, h⟩
  | some (name, variant, packages) => .error (.conflictingDelegates name variant packages)

/-- The implementation that a call of a delegate in a variant goes to: that of the active package that has one, in the
variant asked for or else without a variant, and only after these the default, in the same order. -/
def select? (view : DelegateView α) (name variant : String) : Option α :=
  let exact := view.table.group? name variant
  let plain := if variant.isEmpty then none else view.table.group? name ""
  let active (group : Option (DelegateGroup α)) := group.bind (fun g => g.active? view.active)
  let default (group : Option (DelegateGroup α)) := group.bind DelegateGroup.default
  (active exact).or ((active plain).or ((default exact).or (default plain)))

end DelegateView

end TemplateEngine
