import TemplateEngine.Data.ShortestDecimal
import TemplateEngine.Value.CellStore

namespace TemplateEngine

mutual

/-- The text of a value, given the texts of cells. -/
def Value.textWith (cellText : CellId → String) : Value → String
  | .null => "null"
  | .bool b => if b then "true" else "false"
  | .integer n => toString n.toInt
  | .float x => x.text
  | .string s => s
  | .list items => "[" ++ ", ".intercalate (itemTexts cellText items) ++ "]"
  | .record fields => "\x7b" ++ ", ".intercalate (recordTexts cellText fields).reverse ++ "\x7d"
  | .sanitized c => c.content

/-- The text of a slot, given the texts of cells. -/
def Slot.textWith (cellText : CellId → String) : Slot → String
  | .ready value => value.textWith cellText
  | .deferred c => cellText c

def itemTexts (cellText : CellId → String) : List Slot → List String
  | [] => []
  | item :: rest => item.textWith cellText :: itemTexts cellText rest

/-- The texts of a record's fields with their names, the newest first. -/
def recordTexts (cellText : CellId → String) : OrderedMap Slot → List String
  | ⟨_, fields⟩ => fieldTexts cellText fields

/-- The texts of fields with their names, the newest first. -/
def fieldTexts (cellText : CellId → String) {names : List String} : Fields Slot names → List String
  | .nil => []
  | .snoc older name _ slot => (name ++ ": " ++ slot.textWith cellText) :: fieldTexts cellText older

end

namespace CellStore

/-- The text of a cell, followed through at most `depth` cells; null without a value. Where the cells run out the
text is cut off with a null: a cell that contains itself has no text, and printing it would not end. -/
def cellText (σ : CellStore) : (depth : Nat) → CellId → String
  | 0, _ => "null"
  | depth + 1, c =>
    match σ.state c with
    | .completed value => value.textWith (cellText σ depth)
    | _ => "null"

/-- The text of a value. A value that does not contain itself leads through each cell once at most, so
as many steps as there are cells reach every part of it and nothing is cut off. -/
def text (σ : CellStore) (value : Value) : String := value.textWith (σ.cellText σ.size)

/-- The text of an optional value: an absent one reads as null. -/
def optionText (σ : CellStore) (value : Option Value) : String := (value.map σ.text).getD "null"

end CellStore

end TemplateEngine
