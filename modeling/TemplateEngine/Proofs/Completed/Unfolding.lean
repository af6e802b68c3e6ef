import Mathlib.Data.List.Forall2
import TemplateEngine.Proofs.Settled

namespace TemplateEngine

mutual

/-- The second value is the first one with some of its cells replaced. -/
inductive Value.Unfolds (base : CellStore) : Value → Value → Prop
  | same (v : Value) : Value.Unfolds base v v
  | list {items items'} (each : UnfoldsItems base items items') : Value.Unfolds base (.list items) (.list items')
  | record {names} {fields fields' : Fields Slot names} (each : UnfoldsFields base fields fields') :
      Value.Unfolds base (.record ⟨names, fields⟩) (.record ⟨names, fields'⟩)

inductive Slot.Unfolds (base : CellStore) : Slot → Slot → Prop
  | deferred (c : CellId) : Slot.Unfolds base (.deferred c) (.deferred c)
  | ready {v w} (values : Value.Unfolds base v w) : Slot.Unfolds base (.ready v) (.ready w)
  | completed {c v w} (held : base.state c = .completed v) (values : Value.Unfolds base v w) :
      Slot.Unfolds base (.deferred c) (.ready w)

inductive UnfoldsItems (base : CellStore) : List Slot → List Slot → Prop
  | nil : UnfoldsItems base [] []
  | cons {item item' rest rest'} (first : Slot.Unfolds base item item') (others : UnfoldsItems base rest rest') :
      UnfoldsItems base (item :: rest) (item' :: rest')

inductive UnfoldsFields (base : CellStore) : {names : List String} → Fields Slot names → Fields Slot names → Prop
  | nil : UnfoldsFields base .nil .nil
  | snoc {names} {older older' : Fields Slot names} {name fresh slot slot'} (others : UnfoldsFields base older older')
      (newest : Slot.Unfolds base slot slot') :
      UnfoldsFields base (.snoc older name fresh slot) (.snoc older' name fresh slot')

end

theorem Slot.Unfolds.same {base : CellStore} (slot : Slot) : slot.Unfolds base slot := by
  cases slot with
  | ready v => exact .ready (.same v)
  | deferred c => exact .deferred c

namespace Value.Unfolds

variable {base : CellStore} {v w : Value}

theorem contentKind (unfolds : v.Unfolds base w) : w.contentKind = v.contentKind := by
  cases unfolds <;> rfl

theorem asString (unfolds : v.Unfolds base w) : w.asString = v.asString := by
  cases unfolds <;> rfl

theorem asInteger (unfolds : v.Unfolds base w) : w.asInteger = v.asInteger := by
  cases unfolds <;> rfl

theorem truthy (unfolds : v.Unfolds base w) : w.truthy = v.truthy := by
  cases unfolds <;> rfl

end Value.Unfolds

inductive CellState.Unfolds (base : CellStore) : CellState → CellState → Prop
  | pending : Unfolds base .pending .pending
  | completed {v w} (values : v.Unfolds base w) : Unfolds base (.completed v) (.completed w)
  | failed (message : String) : Unfolds base (.failed message) (.failed message)

theorem CellState.Unfolds.isReady {base : CellStore} {state state' : CellState} (states : state.Unfolds base state') :
    state'.isReady = state.isReady := by
  cases states <;> rfl

namespace CellStore

/-- The second store has the cells of the first one, with values in which cells are replaced. What is complete in the
base is complete in the first store. -/
structure Unfolds (base σ σ' : CellStore) : Prop where
  order : base.Precedes σ
  size : σ'.size = σ.size
  label : ∀ c, σ'.label c = σ.label c
  state : ∀ c, (σ.state c).Unfolds base (σ'.state c)

variable {base σ σ' : CellStore}

/-- The value of a cell stays the value of the cell. -/
theorem Precedes.held (order : base.Precedes σ) {c : CellId} {v : Value} (held : base.state c = .completed v) :
    σ.state c = .completed v := by
  rw [order.state c (by rw [CellStore.isReady, held]; rfl), held]

theorem Unfolds.isReady (stores : base.Unfolds σ σ') (c : CellId) : σ'.isReady c = σ.isReady c :=
  (stores.state c).isReady

end CellStore

/-- Completions of one cell, with values in which cells are replaced. -/
inductive Completion.Unfolds (base : CellStore) : Completion → Completion → Prop
  | set (c : CellId) {v w} (values : v.Unfolds base w) : Unfolds base (.set c v) (.set c w)
  | fail (c : CellId) (message : String) : Unfolds base (.fail c message) (.fail c message)

namespace CellStore

variable {base σ σ' : CellStore}

theorem Unfolds.complete (stores : base.Unfolds σ σ') (c : CellId) {state state' : CellState}
    (states : state.Unfolds base state') : base.Unfolds (σ.complete c state).2 (σ'.complete c state').2 where
  order := stores.order.trans (precedes_complete σ c state)
  size := by rw [(precedes_complete σ' c state').size, (precedes_complete σ c state).size, stores.size]
  label d := by rw [label_complete, label_complete, stores.label]
  state d := by
    rw [state_complete_eq, state_complete_eq, stores.size, stores.isReady]
    split
    · exact states
    · exact stores.state d

theorem Unfolds.applyAll (stores : base.Unfolds σ σ') {completions completions' : List Completion}
    (each : List.Forall₂ (Completion.Unfolds base) completions completions') :
    base.Unfolds (σ.applyAll completions) (σ'.applyAll completions') := by
  induction each generalizing σ σ' with
  | nil => exact stores
  | cons first _ ih =>
    refine ih ?_
    cases first with
    | set c values => exact stores.complete c (.completed values)
    | fail c message => exact stores.complete c (.failed message)

end CellStore

namespace Slot.Unfolds

variable {base σ σ' : CellStore} {slot slot' : Slot}

/-- A slot and the slot that stands in for it wait for the same cell, if they wait. -/
theorem awaits (unfolds : slot.Unfolds base slot') (stores : base.Unfolds σ σ') :
    slot'.awaits σ' = slot.awaits σ := by
  cases unfolds with
  | deferred c => rw [Slot.awaits, Slot.awaits, stores.isReady]
  | ready values => rfl
  | completed held values => rw [Slot.awaits, Slot.awaits, CellStore.isReady, stores.order.held held]; rfl

end Slot.Unfolds

end TemplateEngine
