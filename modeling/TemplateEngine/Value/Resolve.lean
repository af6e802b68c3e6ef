import TemplateEngine.Sink.Basic
import TemplateEngine.Value.Status
import TemplateEngine.Value.Text

namespace TemplateEngine

inductive DataError
  /-- The cell under this label has no value yet. -/
  | notResolved (label : String)
  /-- The cell under this label was completed with a failure. -/
  | failed (label message : String)
  /-- Input data does not convert to a value. -/
  | conversion (message : String)
  /-- The sink refused the text of a value. -/
  | sink (error : SinkError)
deriving DecidableEq, Inhabited

namespace DataError

def name : DataError → String
  | .notResolved _ => "NotResolved"
  | .failed .. => "Failed"
  | .conversion _ => "Conversion"
  | .sink _ => "Io"

def text : DataError → String
  | .notResolved label => "Value is not resolved yet: " ++ label
  | .failed label message => "Deferred value '" ++ label ++ "' failed: " ++ message
  | .conversion message => "Cannot convert value: " ++ message
  | .sink error => "I/O error: " ++ error.message

end DataError

namespace Slot

def awaits (σ : CellStore) : Slot → Option CellId
  | .ready _ => none
  | .deferred c => if σ.isReady c then none else some c

/-- Done when the slot can be read, otherwise detached on its cell. -/
def status (σ : CellStore) (slot : Slot) : Status := (slot.awaits σ).elim .done .detached

/-- The value of a slot, unless it is pending or failed. -/
def resolve (σ : CellStore) : Slot → Except DataError Value
  | .ready value => .ok value
  | .deferred c =>
    match σ.state c with
    | .pending => .error (.notResolved (σ.label c))
    | .completed value => .ok value
    | .failed message => .error (.failed (σ.label c) message)

/-- Writes the text of a slot once it can be read. A value is always written in full; then the render is
limited if the sink is full and this is not the last output. -/
def render {S : Type} [Sink S] (σ : CellStore) (slot : Slot) (isLast : Bool) (s : S) :
    Except DataError Status × S :=
  match slot.awaits σ with
  | some c => (.ok (.detached c), s)
  | none =>
    match slot.resolve σ with
    | .error e => (.error e, s)
    | .ok value =>
      match Sink.append (σ.text value) s with
      | (.error e, s) => (.error (.sink e), s)
      | (.ok (), s) =>
        if isLast then (.ok .done, s)
        else
          let (full, s) := Sink.isFull s
          (.ok (if full then .limited else .done), s)

end Slot

end TemplateEngine
