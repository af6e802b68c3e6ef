import TemplateEngine.Text.Printable

namespace TemplateEngine.Text

/-- A character inside a quoted text: the common controls, the quote and the backslash have short
escapes, and what does not show by itself is given by its code point. -/
def quotedChar (c : Char) : List Char :=
  if c = '\x00' then ['\\', '0']
  else if c = '\t' then ['\\', 't']
  else if c = '\n' then ['\\', 'n']
  else if c = '\r' then ['\\', 'r']
  else if c = '\\' then ['\\', '\\']
  else if c = '"' then ['\\', '"']
  else if isPrintable c then [c]
  else '\\' :: 'u' :: '\x7b' :: (Nat.toDigits 16 c.toNat ++ ['\x7d'])

def quoted (text : String) : String :=
  String.ofList ('"' :: (text.toList.flatMap quotedChar ++ ['"']))

def shownList (items : List String) : String := "[" ++ ", ".intercalate items ++ "]"

def shownSet (items : List String) : String := "\x7b" ++ ", ".intercalate items ++ "\x7d"

/-- A shown structure: its name, then its fields; the fields of an `open` one end in two dots, which
stand for fields that are not shown. -/
def shownStruct (name : String) (fields : List (String × String)) (isOpen : Bool) : String :=
  let shown := fields.map (fun field => field.1 ++ ": " ++ field.2)
  name ++ " \x7b " ++ ", ".intercalate (if isOpen then shown ++ [".."] else shown) ++ " \x7d"

def shownTagged (tag body : String) : String := tag ++ "(" ++ body ++ ")"

def shownOption {α : Type} (shown : α → String) : Option α → String
  | none => "None"
  | some a => shownTagged "Some" (shown a)

end TemplateEngine.Text
