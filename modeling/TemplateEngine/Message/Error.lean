import TemplateEngine.Message.Part
import TemplateEngine.Sink.Basic

namespace TemplateEngine

inductive VariableType
  | text
  | number
deriving DecidableEq, Inhabited

inductive PartPlace
  /-- Directly in a message that does not start with a choice. -/
  | message
  | selectCase
  | pluralCase
deriving DecidableEq, Inhabited

inductive MessageError
  | missingPlaceholder (name : String)
  | missingPlural (name : String)
  | missingSelect (name : String)
  | wrongType (name : String) (expected : VariableType)
  | noSelectCase (name value : String)
  | noPluralCase (name : String) (value : Int64)
  | unexpectedPart (part : PartForm) (place : PartPlace)
  | pluralOutOfRange (name : String) (value offset : Int64)
  | invalidLabel (label : String)
  | sink (error : SinkError)
deriving DecidableEq, Inhabited

namespace VariableType

def name : VariableType → String
  | .text => "a string"
  | .number => "an integer"

end VariableType

namespace PartPlace

def name : PartPlace → String
  | .message => "a message without plural or select"
  | .selectCase => "a select case"
  | .pluralCase => "a plural case"

end PartPlace

namespace MessageError

def name : MessageError → String
  | .missingPlaceholder _ => "MissingPlaceholder"
  | .missingPlural _ => "MissingPlural"
  | .missingSelect _ => "MissingSelect"
  | .wrongType .. => "WrongValueType"
  | .noSelectCase .. => "NoSelectCase"
  | .noPluralCase .. => "NoPluralCase"
  | .unexpectedPart .. => "UnexpectedPart"
  | .pluralOutOfRange .. => "PluralOutOfRange"
  | .invalidLabel _ => "InvalidPluralCase"
  | .sink _ => "Io"

def text : MessageError → String
  | .missingPlaceholder name => "No value provided for placeholder: '" ++ name ++ "'"
  | .missingPlural name => "No value provided for plural: '" ++ name ++ "'"
  | .missingSelect name => "No value provided for select: '" ++ name ++ "'"
  | .wrongType name expected => "Value for '" ++ name ++ "' must be " ++ expected.name
  | .noSelectCase name value => "No case of select '" ++ name ++ "' matches '" ++ value ++ "'"
  | .noPluralCase name value => "No case of plural '" ++ name ++ "' matches " ++ toString value.toInt
  | .unexpectedPart part place => "Unexpected " ++ part.name ++ " part in " ++ place.name
  | .pluralOutOfRange name value offset =>
    "Plural '" ++ name ++ "' value " ++ toString value.toInt ++ " is out of range for offset "
      ++ toString offset.toInt
  | .invalidLabel label => "Invalid plural case: '" ++ label ++ "'"
  | .sink error => "I/O error: " ++ error.message

end MessageError

/-- Reads a plural label. What is not a label is refused, and the error carries it. -/
def PluralLabel.read (s : String) : Except MessageError PluralLabel :=
  (PluralLabel.parse? s).elim (.error (.invalidLabel s)) .ok

end TemplateEngine
