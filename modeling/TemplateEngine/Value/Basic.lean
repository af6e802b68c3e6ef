import TemplateEngine.Data.Binary64
import TemplateEngine.Data.OrderedMap
import TemplateEngine.Value.ContentKind

namespace TemplateEngine

/-- The identity of a deferred cell: its place in the store that made it. -/
structure CellId where
  index : Nat
deriving DecidableEq, Inhabited

mutual

/-- Lists and records hold slots rather than values, so that an item or a field can be supplied after the value that
holds it. -/
inductive Value
  | null
  | bool (b : Bool)
  | integer (n : Int64)
  | float (x : Binary64)
  | string (s : String)
  | list (items : List Slot)
  | record (fields : OrderedMap Slot)
  | sanitized (content : SanitizedContent)

/-- A place for a value: the value itself, or the deferred cell that will hold it. -/
inductive Slot
  | ready (value : Value)
  | deferred (cell : CellId)

end

/-- Named slots, in the order in which they were first set. -/
abbrev Record := OrderedMap Slot

instance : Inhabited Value := ⟨.null⟩

instance : Inhabited Slot := ⟨.ready .null⟩

namespace Value

def isNull : Value → Bool
  | .null => true
  | _ => false

def contentKind : Value → Option ContentKind
  | .sanitized c => some c.kind
  | _ => none

def asString : Value → Option String
  | .string s => some s
  | .sanitized c => some c.content
  | _ => none

def asInteger : Value → Option Int64
  | .integer n => some n
  | _ => none

/-- Truthiness: null, false, the zeros, NaN and empty text are false, and all else is true. -/
def truthy : Value → Bool
  | .null => false
  | .bool b => b
  | .integer n => n != 0
  | .float x => !x.isZero && !x.isNaN
  | .string s => !s.isEmpty
  | .sanitized c => !c.content.isEmpty
  | .list _ => true
  | .record _ => true

end Value

namespace Slot

/-- The slot that stands for every absent value. -/
def null : Slot := .ready .null

/-- Whether the slot itself is null. A deferred cell is not, even when null was supplied for it. -/
def isNull : Slot → Bool
  | .ready value => value.isNull
  | .deferred _ => false

end Slot

namespace Record

/-- The slot of a field that is present and not null. -/
def present? (r : Record) (name : String) : Option Slot :=
  (r.get? name).filter (fun slot => !slot.isNull)

/-- The slot to read for a field: the null slot stands for a field that is missing or null. -/
def field (r : Record) (name : String) : Slot := (present? r name).getD .null

/-- A null field reads as itself, since all null slots are one. -/
theorem field_eq (r : Record) (name : String) : field r name = (r.get? name).getD .null := by
  simp only [field, present?]
  cases r.get? name with
  | none => rfl
  | some slot =>
    cases slot with
    | deferred c => rfl
    | ready v => cases v <;> rfl

end Record

/-- The list item at an index, if the list has one. -/
def listItem? (items : List Slot) (index : Int64) : Option Slot :=
  if index.toInt < 0 then none else items[index.toInt.toNat]?

/-- The slot to read for a list item: the null slot stands for an index outside the list. -/
def listItem (items : List Slot) (index : Int64) : Slot := (listItem? items index).getD .null

end TemplateEngine
