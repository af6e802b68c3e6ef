import TemplateEngine.Data.SortedMap
import TemplateEngine.Json.Syntax

namespace TemplateEngine

namespace JsonChar

def ofSurrogates (high low : Nat) : Char := Char.ofNat (0x10000 + (high - 0xd800) * 1024 + (low - 0xdc00))

def decode? : List JsonChar → Option (List Char)
  | [] => some []
  | .plain c :: rest => (decode? rest).map (c :: ·)
  | .escaped unit :: rest =>
    if 0xd800 ≤ unit ∧ unit < 0xdc00 then
      match rest with
      | .escaped low :: rest =>
        if 0xdc00 ≤ low ∧ low < 0xe000 then (decode? rest).map (ofSurrogates unit low :: ·) else none
      | _ => none
    else if 0xdc00 ≤ unit ∧ unit < 0xe000 then none
    else (decode? rest).map (Char.ofNat unit :: ·)

def text? (content : List JsonChar) : Option String := (decode? content).map String.ofList

end JsonChar

namespace JsonSyntax

def nestingLimit : Nat := 127

mutual

/-- The value of a text whose containers may still nest to a depth of `room`. An object lists its members in ascending
order of their names, and of members with one name the last counts. -/
def toJson? (room : Nat) : JsonSyntax → Option Json
  | .null => some .null
  | .bool b => some (.bool b)
  | .number literal => literal.value?.map .number
  | .string content => (JsonChar.text? content).map .string
  | .array items => if room = 0 then none else (itemsToJson? (room - 1) items).map .array
  | .object members =>
    if room = 0 then none
    else (membersToJson? (room - 1) members).map fun members =>
      .object (OrderedMap.ofList (SortedMap.ofList members).toList)

def itemsToJson? (room : Nat) : List JsonSyntax → Option (List Json)
  | [] => some []
  | item :: rest => do
    let item ← toJson? room item
    let rest ← itemsToJson? room rest
    return item :: rest

def membersToJson? (room : Nat) : List (List JsonChar × JsonSyntax) → Option (List (String × Json))
  | [] => some []
  | (name, item) :: rest => do
    let name ← JsonChar.text? name
    let item ← toJson? room item
    let rest ← membersToJson? room rest
    return (name, item) :: rest

end

end JsonSyntax

namespace Json

def read? (text : String) : Option Json :=
  (JsonSyntax.parse? text).bind (JsonSyntax.toJson? JsonSyntax.nestingLimit)

end Json

end TemplateEngine
