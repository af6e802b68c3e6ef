import TemplateEngine.Message.Plural

namespace TemplateEngine

inductive PluralLabel
  /-- The count itself is this number. -/
  | exactly (n : UInt32)
  /-- The count, less the offset of the plural, is of this category. -/
  | category (c : PluralCategory)
deriving DecidableEq, Inhabited

namespace PluralLabel

/-- The number written by digits, if there are any and thirty-two bits hold it. -/
def number? (digits : List Char) : Option UInt32 :=
  if digits.isEmpty || !digits.all Char.isDigit then none
  else
    let n := digits.foldl (fun n c => n * 10 + (c.toNat - '0'.toNat)) 0
    if n < UInt32.size then some (UInt32.ofNat n) else none

/-- Reads a label: an equals sign and a number, which may carry one plus sign, or the name of a
category. -/
def parse? (s : String) : Option PluralLabel :=
  match s.toList with
  | '=' :: '+' :: digits => (number? digits).map .exactly
  | '=' :: digits => (number? digits).map .exactly
  | _ => (PluralCategory.parse? s).map .category

def text : PluralLabel → String
  | .exactly n => "=" ++ toString n.toNat
  | .category c => c.name

def isExactly (count : Int64) : PluralLabel → Bool
  | .exactly n => (n.toNat : Int) == count.toInt
  | .category _ => false

/-- Whether this is the label of the case that serves when no other does. -/
def isOther (label : PluralLabel) : Bool := label == .category .other

end PluralLabel

end TemplateEngine
