import TemplateEngine.Data.ShortestDecimal
import TemplateEngine.Json.Basic

namespace TemplateEngine

namespace Json

def writeChar (c : Char) : List Char :=
  if c = '"' then ['\\', '"']
  else if c = '\\' then ['\\', '\\']
  else if c = '\x08' then ['\\', 'b']
  else if c = '\x0c' then ['\\', 'f']
  else if c = '\n' then ['\\', 'n']
  else if c = '\r' then ['\\', 'r']
  else if c = '\t' then ['\\', 't']
  else if c.toNat < 32 then
    ['\\', 'u', '0', '0', Nat.digitChar (c.toNat / 16), Nat.digitChar (c.toNat % 16)]
  else [c]

def writeString (s : String) : String :=
  String.ofList ('"' :: (s.toList.flatMap writeChar ++ ['"']))

def writeNumber : JsonNumber → String
  | .integer n => toString n.toInt
  | .large n _ => toString n.toNat
  | .float x _ => x.inspect

mutual

def write : Json → String
  | .null => "null"
  | .bool b => if b then "true" else "false"
  | .number n => writeNumber n
  | .string s => writeString s
  | .array items => "[" ++ ",".intercalate (writeItems items) ++ "]"
  | .object members => "\x7b" ++ ",".intercalate (writeMembers members).reverse ++ "\x7d"

def writeItems : List Json → List String
  | [] => []
  | item :: rest => item.write :: writeItems rest

/-- The members of an object as texts, the newest first. -/
def writeMembers : OrderedMap Json → List String
  | ⟨_, fields⟩ => writeFields fields

/-- Members as texts, the newest first. -/
def writeFields {names : List String} : Fields Json names → List String
  | .nil => []
  | .snoc older name _ value => (writeString name ++ ":" ++ value.write) :: writeFields older

end

end Json

end TemplateEngine
