import TemplateEngine.Value.Convert

namespace TemplateEngine

/-- The value of a number. Only integers beyond the range of values become floats. -/
def JsonNumber.toValue : JsonNumber → Value
  | .integer n => .integer n
  | .large n _ => .float (Binary64.ofNat n.toNat)
  | .float x _ => .float x

theorem JsonNumber.convert_eq (n : JsonNumber) : n.convert = .ok n.toValue := by
  cases n with
  | integer n => rfl
  | large n above => rfl
  | float x finite => rfl

mutual

/-- What the standard converter makes of data, as a value outright. -/
def Json.toValue : Json → Value
  | .null => .null
  | .bool b => .bool b
  | .number n => n.toValue
  | .string s => .string s
  | .array items => .list (itemsToSlots items)
  | .object members => .record (membersToSlots members)

def itemsToSlots : List Json → List Slot
  | [] => []
  | item :: rest => .ready item.toValue :: itemsToSlots rest

def membersToSlots : OrderedMap Json → Record
  | ⟨_, fields⟩ => ⟨_, fieldsToSlots fields⟩

/-- Members as fields, under the same names and in the same order. -/
def fieldsToSlots {names : List String} : Fields Json names → Fields Slot names
  | .nil => .nil
  | .snoc older name fresh value => .snoc (fieldsToSlots older) name fresh (.ready value.toValue)

end

mutual

/-- No data are refused: every number has a float, so neither of the errors that are passed on ever arises. -/
theorem Json.convert_eq (j : Json) : j.convert = .ok j.toValue := by
  cases j with
  | null | bool | string => rfl
  | number n => exact n.convert_eq
  | array items => rw [Json.convert, convertItems_eq items, Json.toValue, Except.map]
  | object members => rw [Json.convert, convertMembers_eq members, Json.toValue, Except.map]

theorem convertItems_eq (items : List Json) : convertItems items = .ok (itemsToSlots items) := by
  cases items with
  | nil => rfl
  | cons item rest =>
    rw [convertItems, item.convert_eq, convertItems_eq rest, itemsToSlots]
    rfl

theorem convertMembers_eq (members : OrderedMap Json) : convertMembers members = .ok (membersToSlots members) := by
  cases members with
  | mk names fields =>
    rw [convertMembers, convertFields_eq fields, membersToSlots]
    rfl

theorem convertFields_eq {names : List String} (fields : Fields Json names) :
    convertFields fields = .ok (fieldsToSlots fields) := by
  cases fields with
  | nil => rfl
  | snoc older name fresh value =>
    rw [convertFields, convertFields_eq older, value.convert_eq, fieldsToSlots]
    rfl

end

namespace Converter

theorem json_convert (j : Json) : json.convert j = .ok j.toValue := j.convert_eq

theorem json_convertRecord (j : Json) : json.convertRecord j = j.toValue.toRecord := by
  rw [convertRecord, json_convert]
  rfl

end Converter

end TemplateEngine
