namespace TemplateEngine

/-- A binary64 number, held as its sixty-four bits. -/
structure Binary64 where
  bits : UInt64
deriving DecidableEq, Inhabited

namespace Binary64

/-- Whether the sign bit is set; zeros and NaNs carry one too. -/
def isNegative (x : Binary64) : Bool := decide (1 <<< 63 ≤ x.bits.toNat)

def exponentField (x : Binary64) : Nat := x.bits.toNat >>> 52 % 1 <<< 11

def fraction (x : Binary64) : Nat := x.bits.toNat % 1 <<< 52

/-- Whether the pattern stands for no number. -/
def isNaN (x : Binary64) : Bool := x.exponentField == 2047 && x.fraction != 0

/-- Whether the pattern is one of the two infinities. -/
def isInfinite (x : Binary64) : Bool := x.exponentField == 2047 && x.fraction == 0

/-- Whether the pattern stands for a number that is not infinite. -/
def isFinite (x : Binary64) : Bool := x.exponentField != 2047

/-- Whether the value is zero, of either sign. -/
def isZero (x : Binary64) : Bool := x.bits.toNat % 1 <<< 63 == 0

/-- Numerical equality: the two zeros are equal, and a NaN equals nothing. -/
def same (x y : Binary64) : Bool :=
  !x.isNaN && !y.isNaN && (x.bits == y.bits || (x.isZero && y.isZero))

/-- The integer significand of a finite value, whose magnitude is `significand * 2 ^ (scale - 1075)`. -/
def significand (x : Binary64) : Nat :=
  if x.exponentField = 0 then x.fraction else 1 <<< 52 + x.fraction

/-- The exponent that goes with `significand`, biased by 1075. -/
def scale (x : Binary64) : Nat := max x.exponentField 1

def infinity : Binary64 := ⟨0x7ff0000000000000⟩

def negate (x : Binary64) : Binary64 := ⟨x.bits ^^^ 0x8000000000000000⟩

/-- The nearest integer to `num / den`; a half goes to the even neighbour. -/
def roundHalfEven (num den : Nat) : Nat :=
  let quotient := num / den
  let twice := 2 * (num % den)
  if den < twice || (twice == den && quotient % 2 == 1) then quotient + 1 else quotient

/-- The scale at which `num / den` has a significand of fifty-three bits, or the least scale there is. -/
def scaleOfRatio (num den : Nat) : Nat :=
  let reach := num.log2 + 1075 - 52
  let exact := reach - den.log2
  let fits := den <<< (exact - 1023) ≤ num <<< (1023 - exact)
  max (if fits then exact else exact - 1) 1

/-- The binary64 number nearest to `num / den`, the even one of two; beyond the range, infinity. The
bits are those of the significand counted up from the start of its scale, so a significand that
rounds up to the next power of two moves to the next scale by itself. -/
def ofRatio (num den : Nat) : Binary64 :=
  if num = 0 then ⟨0⟩ else
  let scale := scaleOfRatio num den
  let significand := roundHalfEven (num <<< (1075 - scale)) (den <<< (scale - 1075))
  let bits := (scale - 1) <<< 52 + significand
  if 2047 <<< 52 ≤ bits then infinity else ⟨bits.toUInt64⟩

def ofNat (n : Nat) : Binary64 := ofRatio n 1

/-- The rounded product of the magnitudes of two finite values. -/
def times (x y : Binary64) : Binary64 :=
  ofRatio ((x.significand * y.significand) <<< (x.scale + y.scale - 2150))
    (1 <<< (2150 - (x.scale + y.scale)))

/-- The rounded quotient of the magnitudes of two finite values, the second not zero. -/
def dividedBy (x y : Binary64) : Binary64 :=
  ofRatio (x.significand <<< x.scale) (y.significand <<< y.scale)

end Binary64

end TemplateEngine
