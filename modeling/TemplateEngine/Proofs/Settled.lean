import TemplateEngine.Proofs.Completion

namespace TemplateEngine

mutual

/-- The cells in a value, those in values of cells not included. -/
def Value.cells : Value → List CellId
  | .list items => itemCells items
  | .record fields => recordCells fields
  | _ => []

def Slot.cells : Slot → List CellId
  | .ready value => value.cells
  | .deferred c => [c]

def itemCells : List Slot → List CellId
  | [] => []
  | item :: rest => item.cells ++ itemCells rest

def recordCells : OrderedMap Slot → List CellId
  | ⟨_, fields⟩ => fieldCells fields

def fieldCells {names : List String} : Fields Slot names → List CellId
  | .nil => []
  | .snoc older _ _ slot => slot.cells ++ fieldCells older

end

section Text

variable {f g : CellId → String}

mutual

/-- The text of a value depends on the cells in it alone. -/
theorem Value.textWith_congr (v : Value) (same : ∀ c ∈ v.cells, f c = g c) : v.textWith f = v.textWith g := by
  cases v with
  | null | bool | integer | float | string | sanitized => rfl
  | list items => rw [Value.textWith, Value.textWith, itemTexts_congr items same]
  | record fields => rw [Value.textWith, Value.textWith, recordTexts_congr fields same]

theorem Slot.textWith_congr (slot : Slot) (same : ∀ c ∈ slot.cells, f c = g c) :
    slot.textWith f = slot.textWith g := by
  cases slot with
  | ready v => exact v.textWith_congr same
  | deferred c => exact same c (List.mem_singleton_self c)

theorem itemTexts_congr (items : List Slot) (same : ∀ c ∈ itemCells items, f c = g c) :
    itemTexts f items = itemTexts g items := by
  cases items with
  | nil => rfl
  | cons item rest =>
    have first := item.textWith_congr fun c member => same c (List.mem_append_left _ member)
    have others := itemTexts_congr rest fun c member => same c (List.mem_append_right _ member)
    rw [itemTexts, itemTexts, first, others]

theorem recordTexts_congr (record : OrderedMap Slot) (same : ∀ c ∈ recordCells record, f c = g c) :
    recordTexts f record = recordTexts g record := by
  cases record with
  | mk names fields => exact fieldTexts_congr fields same

theorem fieldTexts_congr {names : List String} (fields : Fields Slot names)
    (same : ∀ c ∈ fieldCells fields, f c = g c) : fieldTexts f fields = fieldTexts g fields := by
  cases fields with
  | nil => rfl
  | snoc older name fresh slot =>
    have newest := slot.textWith_congr fun c member => same c (List.mem_append_left _ member)
    have others := fieldTexts_congr older fun c member => same c (List.mem_append_right _ member)
    rw [fieldTexts, fieldTexts, newest, others]

end

end Text

/-- All cells in the value are complete. -/
def Value.Settled (base : CellStore) (v : Value) : Prop := ∀ c ∈ v.cells, base.isReady c = true

/-- A value in a slot is settled; a cell that is the slot itself may be pending. -/
def Slot.Settled (base : CellStore) : Slot → Prop
  | .ready v => v.Settled base
  | .deferred _ => True

/-- A completion with a value whose cells were complete before. -/
def Completion.Settled (base : CellStore) : Completion → Prop
  | .set _ v => v.Settled base
  | .fail _ _ => True

namespace CellStore

/-- The store came from the first one by completing cells with values that were settled in it. -/
structure Extends (base σ : CellStore) : Prop where
  order : base.Precedes σ
  held : ∀ c v, σ.state c = .completed v → v.Settled base

variable {base σ later : CellStore}

theorem Extends.closed (extended : base.Extends σ) : base.Extends base where
  order := .refl base
  held c v completed := by
    have ready : base.isReady c = true := by rw [isReady, completed]; rfl
    exact extended.held c v ((extended.order.state c ready).trans completed)

/-- The text of a cell that is complete stays as it is. -/
theorem Extends.cellText (extended : base.Extends σ) (depth : Nat) {c : CellId} (ready : base.isReady c = true) :
    σ.cellText depth c = base.cellText depth c := by
  induction depth generalizing c with
  | zero => rfl
  | succ depth ih =>
    rw [CellStore.cellText, CellStore.cellText, extended.order.state c ready]
    cases state : base.state c with
    | pending => rfl
    | failed message => rfl
    | completed v =>
      have settled := extended.closed.held c v state
      exact v.textWith_congr fun c member => ih (settled c member)

theorem Extends.text (extended : base.Extends σ) {v : Value} (settled : v.Settled base) :
    σ.text v = base.text v := by
  rw [CellStore.text, CellStore.text, extended.order.size]
  exact v.textWith_congr fun c member => extended.cellText base.size (settled c member)

theorem Extends.apply (extended : base.Extends σ) {completion : Completion} (settled : completion.Settled base) :
    base.Extends (σ.apply completion) := by
  have order : base.Precedes (σ.apply completion) := by
    have last := precedes_applyAll σ [completion]
    exact extended.order.trans last
  refine ⟨order, fun d v completed => ?_⟩
  cases completion with
  | set c value =>
    rcases σ.state_complete c d (.completed value) with given | kept
    · cases given.symm.trans completed
      exact settled
    · exact extended.held d v (kept.symm.trans completed)
  | fail c message =>
    rcases σ.state_complete c d (.failed message) with given | kept
    · cases given.symm.trans completed
    · exact extended.held d v (kept.symm.trans completed)

theorem Extends.applyAll (extended : base.Extends σ) {completions : List Completion}
    (settled : ∀ completion ∈ completions, completion.Settled base) : base.Extends (σ.applyAll completions) := by
  induction completions generalizing σ with
  | nil => exact extended
  | cons completion rest ih =>
    exact ih (extended.apply (settled completion List.mem_cons_self)) fun later member =>
      settled later (List.mem_cons_of_mem completion member)

end CellStore

end TemplateEngine
