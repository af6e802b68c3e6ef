import TemplateEngine.Data.Binary64
import TemplateEngine.Data.OrderedMap

namespace TemplateEngine

inductive JsonNumber
  | integer (n : Int64)
  /-- A natural number above the range of `integer`. -/
  | large (n : UInt64) (above : 1 <<< 63 ≤ n.toNat)
  | float (x : Binary64) (finite : x.isFinite = true)

inductive Json
  | null
  | bool (b : Bool)
  | number (n : JsonNumber)
  | string (s : String)
  | array (items : List Json)
  | object (members : OrderedMap Json)

instance : Inhabited Json := ⟨.null⟩

namespace JsonNumber

/-- A natural number below `2 ^ 64` as a JSON number. -/
def ofNat? (n : Nat) : Option JsonNumber :=
  if n < 1 <<< 63 then some (.integer (Int64.ofNat n))
  else if small : n < UInt64.size then
    if above : 1 <<< 63 ≤ (UInt64.ofNatLT n small).toNat then some (.large (UInt64.ofNatLT n small) above)
    else none
  else none

def ofBinary64? (x : Binary64) : Option JsonNumber :=
  if finite : x.isFinite = true then some (.float x finite) else none

end JsonNumber

end TemplateEngine
