import TemplateEngine.Value.Basic

namespace TemplateEngine

/-- What is known of a deferred cell. -/
inductive CellState
  | pending
  | completed (value : Value)
  | failed (message : String)

/-- A deferred cell: the label it is reported under and its state. -/
structure Cell where
  label : String
  state : CellState

/-- All deferred cells, in the order in which they were made. A cell is completed at most once and never forgotten. -/
structure CellStore where
  cells : List Cell

/-- The label of a cell for which none is given. -/
def defaultCellLabel : String := "deferred"

namespace CellState

/-- Whether the cell has been completed, successfully or not. -/
def isReady : CellState → Bool
  | .pending => false
  | _ => true

end CellState

namespace CellStore

def empty : CellStore := ⟨[]⟩

instance : Inhabited CellStore := ⟨empty⟩

def size (σ : CellStore) : Nat := σ.cells.length

/-- The state of a cell; one that the store did not make is pending for ever. -/
def state (σ : CellStore) (c : CellId) : CellState := (σ.cells[c.index]?).elim .pending Cell.state

def label (σ : CellStore) (c : CellId) : String := (σ.cells[c.index]?).elim "" Cell.label

def isReady (σ : CellStore) (c : CellId) : Bool := (σ.state c).isReady

def make (σ : CellStore) (label : String) : CellId × CellStore :=
  (⟨σ.size⟩, ⟨σ.cells ++ [⟨label, .pending⟩]⟩)

/-- Completes a pending cell with a state and answers true; a cell that is complete stays as it is. -/
def complete (σ : CellStore) (c : CellId) (state : CellState) : Bool × CellStore :=
  if c.index < σ.size ∧ σ.isReady c = false then
    (true, ⟨σ.cells.modify c.index (fun cell => { cell with state := state })⟩)
  else (false, σ)

/-- Supplies the value of a cell. -/
def set (σ : CellStore) (c : CellId) (value : Value) : Bool × CellStore :=
  σ.complete c (.completed value)

/-- Records that the value of a cell cannot be supplied. -/
def fail (σ : CellStore) (c : CellId) (message : String) : Bool × CellStore :=
  σ.complete c (.failed message)

/-- A completed cell is not completed again. -/
theorem complete_of_isReady {σ : CellStore} {c : CellId} (ready : σ.isReady c = true)
    (state : CellState) : σ.complete c state = (false, σ) := by
  simp [complete, ready]

/-- Completing a cell leaves the states of all other cells alone. -/
theorem state_complete_of_ne {σ : CellStore} {c d : CellId} (apart : d ≠ c) (s : CellState) :
    (σ.complete c s).2.state d = σ.state d := by
  have index : c.index ≠ d.index := fun same => apart (by cases c; cases d; simp_all)
  unfold complete
  split
  · simp [state, List.getElem?_modify_ne _ _ index]
  · rfl

end CellStore

end TemplateEngine
