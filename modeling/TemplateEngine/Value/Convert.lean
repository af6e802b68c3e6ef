import TemplateEngine.Json.Writer
import TemplateEngine.Value.Resolve

namespace TemplateEngine

namespace JsonNumber

/-- The number as an integer, if it is in the range of sixty-four bits with a sign. -/
def asInt64? : JsonNumber → Option Int64
  | .integer n => some n
  | .large .. => none
  | .float .. => none

/-- The number as a float; an integer is rounded to the nearest one. -/
def asBinary64? : JsonNumber → Option Binary64
  | .integer n =>
    let magnitude := Binary64.ofNat n.toInt.natAbs
    some (if n < 0 then magnitude.negate else magnitude)
  | .large n _ => some (Binary64.ofNat n.toNat)
  | .float x _ => some x

/-- Integers of sixty-four bits stay integers, other numbers become floats. -/
def convert (n : JsonNumber) : Except DataError Value :=
  match n.asInt64? with
  | some i => .ok (.integer i)
  | none =>
    n.asBinary64?.elim
      (.error (.conversion ("number " ++ Json.writeNumber n ++ " is not representable")))
      (fun x => .ok (.float x))

end JsonNumber

mutual

/-- Arrays and objects become lists and records of ready slots. The first part that is not converted is the
error of the whole. -/
def Json.convert : Json → Except DataError Value
  | .null => .ok .null
  | .bool b => .ok (.bool b)
  | .number n => n.convert
  | .string s => .ok (.string s)
  | .array items => (convertItems items).map .list
  | .object members => (convertMembers members).map .record

def convertItems : List Json → Except DataError (List Slot)
  | [] => .ok []
  | item :: rest => do
    let value ← item.convert
    let slots ← convertItems rest
    return .ready value :: slots

def convertMembers : OrderedMap Json → Except DataError Record
  | ⟨_, members⟩ => (convertFields members).map (fun fields => ⟨_, fields⟩)

/-- Members as fields, under the same names and in the same order. -/
def convertFields {names : List String} : Fields Json names → Except DataError (Fields Slot names)
  | .nil => .ok .nil
  | .snoc older name fresh member => do
    let fields ← convertFields older
    let value ← member.convert
    return .snoc fields name fresh (.ready value)

end

namespace Value

def describe : Value → String
  | .null => "null"
  | .bool _ => "a boolean"
  | .integer _ => "a number"
  | .float _ => "a number"
  | .string _ => "a string"
  | .sanitized _ => "a string"
  | .list _ => "a list"
  | .record _ => "a record"

def toRecord : Value → Except DataError Record
  | .record fields => .ok fields
  | value =>
    .error (.conversion ("expected an object for a template record, found " ++ value.describe))

end Value

/-- A way to convert host data. -/
structure Converter where
  convert : Json → Except DataError Value

namespace Converter

instance : Inhabited Converter := ⟨⟨Json.convert⟩⟩

/-- The standard converter. -/
def json : Converter := ⟨Json.convert⟩

def fixed (value : Value) : Converter := ⟨fun _ => .ok value⟩

def failing (message : String) : Converter := ⟨fun _ => .error (.conversion message)⟩

def convertRecord (converter : Converter) (data : Json) : Except DataError Record :=
  (converter.convert data).bind Value.toRecord

end Converter

end TemplateEngine
