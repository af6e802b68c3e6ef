import TemplateEngine.Message.Bundle
import TemplateEngine.Message.Error

namespace TemplateEngine

inductive PlaceholderValue
  | text (s : String)
  | number (n : Int64)
deriving DecidableEq, Inhabited

abbrev Placeholders := SortedMap String PlaceholderValue

def defaultLocale : String := "en"

namespace PlaceholderValue

def toText : PlaceholderValue → String
  | .text s => s
  | .number n => toString n.toInt

end PlaceholderValue

namespace Placeholders

def placeholder (values : Placeholders) (name : String) : Except MessageError String :=
  match values.get? name with
  | some value => .ok value.toText
  | none => .error (.missingPlaceholder name)

def selector (values : Placeholders) (name : String) : Except MessageError String :=
  match values.get? name with
  | some (.text s) => .ok s
  | some (.number _) => .error (.wrongType name .text)
  | none => .error (.missingSelect name)

def count (values : Placeholders) (name : String) : Except MessageError Int64 :=
  match values.get? name with
  | some (.number n) => .ok n
  | some (.text _) => .error (.wrongType name .number)
  | none => .error (.missingPlural name)

end Placeholders

namespace MessagePart

/-- The difference of two numbers, if sixty-four bits hold it. -/
def difference? (a b : Int64) : Option Int64 :=
  let d := a.toInt - b.toInt
  if Int64.minValue.toInt ≤ d ∧ d ≤ Int64.maxValue.toInt then some (Int64.ofInt d) else none

/-- The parts of the case of a plural: an exact count comes first, then the category of what is left
after the offset, and then the case for all other counts. -/
def pluralCase? (locale : String) (cases : List (PluralLabel × List MessagePart))
    (count left : Int64) : Option (List MessagePart) :=
  let labelled (test : PluralLabel → Bool) := (cases.find? (fun entry => test entry.1)).map Prod.snd
  (labelled (PluralLabel.isExactly count)).or
    ((labelled (· == .category (pluralCategory locale left.toInt))).or
      (labelled PluralLabel.isOther))

def pluralPart (values : Placeholders) (left : Int64) : MessagePart → Except MessageError String
  | .text s => .ok s
  | .placeholder name => values.placeholder name
  | .remainder => .ok (toString left.toInt)
  | part => .error (.unexpectedPart part.form .pluralCase)

def pluralText (locale : String) (values : Placeholders) (name : String) (offset : Int64)
    (cases : List (PluralLabel × List MessagePart)) : Except MessageError String := do
  let count ← values.count name
  match difference? count offset with
  | none => .error (.pluralOutOfRange name count offset)
  | some left =>
    match pluralCase? locale cases count left with
    | none => .error (.noPluralCase name count)
    | some parts =>
      let texts ← parts.mapM (pluralPart values left)
      return String.join texts

mutual

def selectPart (locale : String) (values : Placeholders) : MessagePart → Except MessageError String
  | .text s => .ok s
  | .placeholder name => values.placeholder name
  | .plural name offset cases => pluralText locale values name offset cases
  | .select name cases => do
    let value ← values.selector name
    match (exactCase locale values value cases).or (defaultCase locale values cases) with
    | none => .error (.noSelectCase name value)
    | some outcome => outcome
  | .remainder => .error (.unexpectedPart .remainder .selectCase)

def selectParts (locale : String) (values : Placeholders) : List MessagePart → Except MessageError String
  | [] => .ok ""
  | part :: rest => do
    let head ← selectPart locale values part
    let tail ← selectParts locale values rest
    return head ++ tail

def exactCase (locale : String) (values : Placeholders) (label : String) :
    List (Option String × List MessagePart) → Option (Except MessageError String)
  | [] => none
  | (some l, parts) :: rest =>
    if l = label then some (selectParts locale values parts) else exactCase locale values label rest
  | (none, _) :: rest => exactCase locale values label rest

def defaultCase (locale : String) (values : Placeholders) :
    List (Option String × List MessagePart) → Option (Except MessageError String)
  | [] => none
  | (none, parts) :: _ => some (selectParts locale values parts)
  | (some _, _) :: rest => defaultCase locale values rest

end

/-- The text of a part of a message that does not start with a choice. -/
def flatPart (values : Placeholders) : MessagePart → Except MessageError String
  | .text s => .ok s
  | .placeholder name => values.placeholder name
  | part => .error (.unexpectedPart part.form .message)

end MessagePart

namespace Message

/-- The text of a message; none for a message without parts, which writes nothing at all. A message that starts with a
choice is that choice alone, and any other is a list of texts and placeholders. -/
def text? (m : Message) (values : Placeholders) : Except MessageError (Option String) :=
  let locale := m.locale.getD defaultLocale
  match m.parts with
  | [] => .ok none
  | .plural name offset cases :: _ => (MessagePart.pluralText locale values name offset cases).map some
  | .select name cases :: _ => (MessagePart.selectPart locale values (.select name cases)).map some
  | parts => (parts.mapM (MessagePart.flatPart values)).map (fun texts => some (String.join texts))

def render {S : Type} [Sink S] (m : Message) (values : Placeholders) (s : S) :
    Except MessageError Unit × S :=
  match m.text? values with
  | .error e => (.error e, s)
  | .ok none => (.ok (), s)
  | .ok (some text) =>
    match Sink.append text s with
    | (outcome, s) => (outcome.mapError .sink, s)

end Message

end TemplateEngine
