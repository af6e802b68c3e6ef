import TemplateEngine.Data.ShortestDecimal
import TemplateEngine.Value.CellStore

namespace TemplateEngine

mutual

/-- A value as shown, given how cells are shown. -/
def Value.inspectWith (showCell : CellId → String) : Value → String
  | .null => "Null"
  | .bool b => Text.shownTagged "Bool" (if b then "true" else "false")
  | .integer n => Text.shownTagged "Integer" (toString n.toInt)
  | .float x => Text.shownTagged "Float" x.inspect
  | .string s => Text.shownTagged "String" (Text.quoted s)
  | .list items => Text.shownTagged "List" (Text.shownList (inspectItems showCell items))
  | .record fields =>
    Text.shownTagged "Record"
      (Text.shownStruct "SoyRecord"
        [("fields", Text.shownSet (inspectRecord showCell fields).reverse)] false)
  | .sanitized c => Text.shownTagged "Sanitized" c.inspect

def Slot.inspectWith (showCell : CellId → String) : Slot → String
  | .ready value => Text.shownTagged "Resolved" (value.inspectWith showCell)
  | .deferred c => Text.shownTagged "Deferred" (showCell c)

def inspectItems (showCell : CellId → String) : List Slot → List String
  | [] => []
  | item :: rest => item.inspectWith showCell :: inspectItems showCell rest

/-- A record's fields as shown, the newest first. -/
def inspectRecord (showCell : CellId → String) : OrderedMap Slot → List String
  | ⟨_, fields⟩ => inspectFields showCell fields

/-- Fields as shown, the newest first. -/
def inspectFields (showCell : CellId → String) {names : List String} : Fields Slot names → List String
  | .nil => []
  | .snoc older name _ slot =>
    (Text.quoted name ++ ": " ++ slot.inspectWith showCell) :: inspectFields showCell older

end

namespace CellStore

/-- A cell as shown, followed through at most `depth` cells. -/
def inspectCell (σ : CellStore) : (depth : Nat) → CellId → String
  | 0, _ => ".."
  | depth + 1, c =>
    let state := match σ.state c with
      | .pending => "None"
      | .completed value =>
        Text.shownTagged "Some" (Text.shownTagged "Ok" (value.inspectWith (inspectCell σ depth)))
      | .failed message => Text.shownTagged "Some" (Text.shownTagged "Err" (Text.quoted message))
    Text.shownStruct "Deferred" [("label", Text.quoted (σ.label c)), ("value", state)] false

/-- A cell as shown: its label, and its value or failure once it is complete. -/
def inspect (σ : CellStore) (c : CellId) : String := σ.inspectCell (σ.size + 1) c

/-- The handle of a cell as shown: its label, and whether it is complete. -/
def inspectHandle (σ : CellStore) (c : CellId) : String :=
  Text.shownStruct "PendingHandle"
    [("label", Text.quoted (σ.label c)), ("ready", if σ.isReady c then "true" else "false")] false

end CellStore

end TemplateEngine
