import TemplateEngine.Message.CaseLabel

namespace TemplateEngine

inductive MessagePart
  /-- Text that is written as it is. -/
  | text (s : String)
  /-- The place of a value. -/
  | placeholder (name : String)
  /-- A choice by the plural category of a number. -/
  | plural (name : String) (offset : Int64) (cases : List (PluralLabel × List MessagePart))
  /-- A choice by an exact text; the case without one is the default. -/
  | select (name : String) (cases : List (Option String × List MessagePart))
  /-- In a plural case, the number less the offset. -/
  | remainder

inductive PartForm
  | text
  | placeholder
  | plural
  | select
  | remainder
deriving DecidableEq, Inhabited

namespace PartForm

def name : PartForm → String
  | .text => "raw text"
  | .placeholder => "placeholder"
  | .plural => "plural"
  | .select => "select"
  | .remainder => "plural remainder"

end PartForm

namespace MessagePart

def form : MessagePart → PartForm
  | .text _ => .text
  | .placeholder _ => .placeholder
  | .plural .. => .plural
  | .select .. => .select
  | .remainder => .remainder

def isChoice : MessagePart → Bool
  | .plural .. => true
  | .select .. => true
  | _ => false

mutual

def same : MessagePart → MessagePart → Bool
  | .text s, .text t => s == t
  | .placeholder a, .placeholder b => a == b
  | .plural a m as, .plural b n bs => a == b && m == n && samePluralCases as bs
  | .select a as, .select b bs => a == b && sameSelectCases as bs
  | .remainder, .remainder => true
  | _, _ => false

def sameParts : List MessagePart → List MessagePart → Bool
  | [], [] => true
  | p :: ps, q :: qs => same p q && sameParts ps qs
  | _, _ => false

def samePluralCases : List (PluralLabel × List MessagePart) → List (PluralLabel × List MessagePart) → Bool
  | [], [] => true
  | (a, ps) :: as, (b, qs) :: bs => a == b && sameParts ps qs && samePluralCases as bs
  | _, _ => false

def sameSelectCases :
    List (Option String × List MessagePart) → List (Option String × List MessagePart) → Bool
  | [], [] => true
  | (a, ps) :: as, (b, qs) :: bs => a == b && sameParts ps qs && sameSelectCases as bs
  | _, _ => false

end

end MessagePart

end TemplateEngine
