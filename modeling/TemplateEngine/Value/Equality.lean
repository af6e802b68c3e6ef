import TemplateEngine.Value.Basic

namespace TemplateEngine

mutual

/-- Numbers compare as in IEEE arithmetic, records without regard to the order of their fields, and a deferred cell
equals only itself, whatever it holds. -/
def Value.same : Value → Value → Bool
  | .null, .null => true
  | .bool a, .bool b => a == b
  | .integer a, .integer b => a == b
  | .float a, .float b => a.same b
  | .string a, .string b => a == b
  | .sanitized a, .sanitized b => a == b
  | .list a, .list b => sameItems a b
  | .record a, .record b => a.size == b.size && recordWithin a b
  | _, _ => false

def Slot.same : Slot → Slot → Bool
  | .ready a, .ready b => a.same b
  | .deferred a, .deferred b => a == b
  | _, _ => false

def sameItems : List Slot → List Slot → Bool
  | [], [] => true
  | a :: as, b :: bs => a.same b && sameItems as bs
  | _, _ => false

/-- Whether every field of the first record is an equal field of the second. -/
def recordWithin : OrderedMap Slot → Record → Bool
  | ⟨_, fields⟩, other => fieldsWithin fields other

def fieldsWithin {names : List String} : Fields Slot names → Record → Bool
  | .nil, _ => true
  | .snoc older name _ slot, other =>
    (match other.get? name with
      | some found => slot.same found
      | none => false) && fieldsWithin older other

end

end TemplateEngine
