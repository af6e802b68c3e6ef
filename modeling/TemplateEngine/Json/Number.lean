import TemplateEngine.Json.Basic

namespace TemplateEngine

/-- A number literal, taken apart. Digits are given by their values. -/
structure NumberLiteral where
  negative : Bool
  whole : List Nat
  fraction : Option (List Nat)
  /-- The sign of the exponent, true for a minus, and its digits. -/
  exponent : Option (Bool × List Nat)
deriving DecidableEq, Inhabited

namespace NumberLiteral

/-- Takes digits into a number as long as it stays within `limit`; what follows is given back. -/
def absorb (limit : Nat) (number : Nat) : List Nat → Nat × List Nat
  | [] => (number, [])
  | d :: rest =>
    if number * 10 + d ≤ limit then absorb limit (number * 10 + d) rest else (number, d :: rest)

def powerOfTen (exponent : Nat) : Binary64 := Binary64.ofNat (Nat.pow 10 exponent)

def greatestPower : Nat := 308

/-- Divides by `10 ^ exponent`, by the greatest power of ten first, in `fuel` divisions at most. -/
def divideByPower (x : Binary64) (exponent : Nat) : (fuel : Nat) → Binary64
  | 0 => x
  | fuel + 1 =>
    if exponent ≤ greatestPower then x.dividedBy (powerOfTen exponent)
    else if x.isZero then x
    else divideByPower (x.dividedBy (powerOfTen greatestPower)) (exponent - greatestPower) fuel

/-- The binary64 number for `significand * 10 ^ exponent`; none beyond the range. The significand is rounded before it
is scaled, so the result may be one rounding away from the nearest number. Three divisions bring any significand of
sixty-four bits to zero. -/
def scaled? (significand : Nat) (exponent : Int) : Option Binary64 :=
  let x := Binary64.ofNat significand
  if exponent < 0 then some (divideByPower x exponent.natAbs 4)
  else if exponent.natAbs ≤ greatestPower then
    let y := x.times (powerOfTen exponent.natAbs)
    if y.isFinite then some y else none
  else if x.isZero then some x
  else none

/-- The magnitude of a literal with a point or an exponent, or with more digits than fit: the digits
taken, and the power of ten that the digits before and after the point leave. An exponent beyond the range
of thirty-two bits makes zero of zero and of small numbers, and is refused otherwise. -/
def magnitude? (literal : NumberLiteral) : Option Binary64 :=
  let (head, dropped) := absorb (UInt64.size - 1) 0 literal.whole
  let fraction := literal.fraction.getD []
  let (significand, unread) := absorb (UInt64.size - 1) head fraction
  let base : Int := dropped.length - (fraction.length - unread.length : Nat)
  match literal.exponent with
  | none => scaled? significand base
  | some (minus, digits) =>
    match absorb (1 <<< 31 - 1) 0 digits with
    | (exponent, []) => scaled? significand (if minus then base - exponent else base + exponent)
    | (_, _ :: _) => if significand = 0 ∨ minus then some ⟨0⟩ else none

/-- The number that a literal stands for. Minus zero is a float, and so is an integer that sixty-four bits
do not hold. -/
def value? (literal : NumberLiteral) : Option JsonNumber :=
  let float := literal.magnitude?.bind fun x =>
    JsonNumber.ofBinary64? (if literal.negative then x.negate else x)
  match literal.fraction, literal.exponent, absorb (UInt64.size - 1) 0 literal.whole with
  | none, none, (n, []) =>
    if !literal.negative then JsonNumber.ofNat? n
    else if n = 0 ∨ 1 <<< 63 < n then float
    else some (.integer (Int64.ofInt (-n)))
  | _, _, _ => float

end NumberLiteral

end TemplateEngine
