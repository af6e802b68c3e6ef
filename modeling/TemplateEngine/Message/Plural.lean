namespace TemplateEngine

inductive PluralCategory
  | zero
  | one
  | two
  | few
  | many
  | other
deriving DecidableEq, Inhabited

inductive PluralFamily
  /-- One for 1. -/
  | english
  /-- One for 0 and 1. -/
  | french
  /-- No plural at all. -/
  | invariable
  /-- One after a final 1, few after a final 2 to 4, many otherwise; 11 to 14 are many. -/
  | eastSlavic
  /-- As the east Slavic family, with other for many. -/
  | southSlavic
  /-- One for 1 alone, few after a final 2 to 4 except 12 to 14, many otherwise. -/
  | polish
  /-- One for 1, few for 2 to 4. -/
  | czech
  /-- One for 1, two for 2. -/
  | hebrew
  /-- Zero, one and two for themselves, then few for a final 03 to 10 and many for 11 to 99. -/
  | arabic
deriving DecidableEq, Inhabited

namespace PluralCategory

def all : List PluralCategory := [zero, one, two, few, many, other]

def name : PluralCategory → String
  | zero => "zero"
  | one => "one"
  | two => "two"
  | few => "few"
  | many => "many"
  | other => "other"

/-- The category of this name, in ASCII letters of either case. -/
def parse? (s : String) : Option PluralCategory :=
  let lower := s.toList.map Char.toLower
  all.find? (fun category => category.name.toList = lower)

theorem parse?_name (category : PluralCategory) : parse? category.name = some category := by
  cases category <;> decide

end PluralCategory

namespace PluralFamily

def languages : List (PluralFamily × List String) :=
  [(.french, ["fr", "pt", "hi", "bn", "fa", "am", "zu"]),
   (.invariable, ["ja", "zh", "ko", "th", "vi", "id", "ms", "lo", "my"]),
   (.eastSlavic, ["ru", "uk", "be"]),
   (.southSlavic, ["sr", "hr", "bs", "sh"]),
   (.polish, ["pl"]),
   (.czech, ["cs", "sk"]),
   (.hebrew, ["he", "iw"]),
   (.arabic, ["ar"])]

/-- The family of a language; one that is not listed behaves as English. -/
def ofLanguage (language : String) : PluralFamily :=
  ((languages.find? (fun entry => entry.2.contains language)).map Prod.fst).getD .english

/-- The language of a locale: what stands before its first hyphen or underscore, in lower case. -/
def language (locale : String) : String :=
  String.ofList ((locale.toList.takeWhile (fun c => c != '-' && c != '_')).map Char.toLower)

def category (family : PluralFamily) (n : Nat) : PluralCategory :=
  let units := n % 10
  let tail := n % 100
  let few := 2 ≤ units ∧ units ≤ 4 ∧ ¬(12 ≤ tail ∧ tail ≤ 14)
  match family with
  | .english => if n = 1 then .one else .other
  | .french => if n ≤ 1 then .one else .other
  | .invariable => .other
  | .eastSlavic => if units = 1 ∧ tail ≠ 11 then .one else if few then .few else .many
  | .southSlavic => if units = 1 ∧ tail ≠ 11 then .one else if few then .few else .other
  | .polish => if n = 1 then .one else if few then .few else .many
  | .czech => if n = 1 then .one else if 2 ≤ n ∧ n ≤ 4 then .few else .other
  | .hebrew => if n = 1 then .one else if n = 2 then .two else .other
  | .arabic =>
    if n = 0 then .zero
    else if n = 1 then .one
    else if n = 2 then .two
    else if 3 ≤ tail ∧ tail ≤ 10 then .few
    else if 11 ≤ tail then .many
    else .other

end PluralFamily

/-- The category of a number in the language of a locale. It depends on the absolute value only. -/
def pluralCategory (locale : String) (value : Int) : PluralCategory :=
  (PluralFamily.ofLanguage (PluralFamily.language locale)).category value.natAbs

end TemplateEngine
