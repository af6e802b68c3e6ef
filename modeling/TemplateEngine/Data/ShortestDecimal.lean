import TemplateEngine.Data.Binary64

namespace TemplateEngine

/-- The number `digits * 10 ^ exponent`. -/
structure Decimal where
  digits : Nat
  exponent : Int
deriving DecidableEq, Inhabited

namespace Decimal

/-- Drops trailing zeros of the digits, at most `fuel` of them. -/
def trim (d : Decimal) : (fuel : Nat) → Decimal
  | 0 => d
  | fuel + 1 =>
    if d.digits ≠ 0 ∧ d.digits % 10 = 0 then trim ⟨d.digits / 10, d.exponent + 1⟩ fuel else d

/-- A finite positive number over a common denominator: it lies at `value / unit`, and the decimals that
round to it lie between `low / unit` and `high / unit`, the ends included when `closed`. -/
structure Window where
  low : Nat
  value : Nat
  high : Nat
  unit : Nat
  closed : Bool

/-- The window of a finite value: half a step to each side, but only a quarter step below a power of two,
where the steps get finer. The ends round to the value when its significand is even. -/
def Window.ofBinary64 (x : Binary64) : Window :=
  let up := 1 <<< (x.scale - 1075)
  let below := if x.fraction = 0 ∧ 1 < x.scale then 1 else 2
  { low := (4 * x.significand - below) * up
    value := 4 * x.significand * up
    high := (4 * x.significand + 2) * up
    unit := 4 <<< (1075 - x.scale)
    closed := x.significand % 2 == 0 }

/-- Whether `count / grid` lies in the window. -/
def Window.holds (w : Window) (count grid : Nat) : Bool :=
  let point := count * w.unit
  let low := w.low * grid
  let high := w.high * grid
  if w.closed then low ≤ point && point ≤ high else low < point && point < high

/-- The decimal in the window on the grid of step `10 ^ exponent`: one of the two neighbours of the
value, the nearer when both are in the window, and the upper one when both are equally near. -/
def Window.onGrid? (w : Window) (exponent : Int) : Option Decimal :=
  let grid := Nat.pow 10 (-exponent).toNat
  let wide : Window := { w with unit := w.unit * Nat.pow 10 exponent.toNat }
  let down := w.value * grid / wide.unit
  let upper : Decimal := ⟨down + 1, exponent⟩
  let lower : Decimal := ⟨down, exponent⟩
  match wide.holds down grid && down != 0, wide.holds (down + 1) grid with
  | true, true =>
    if (2 * down + 1) * wide.unit ≤ 2 * (w.value * grid) then some upper else some lower
  | true, false => some lower
  | false, true => some upper
  | false, false => none

/-- The first grid that has a decimal in the window, from `exponent` downwards through `fuel` grids. -/
def Window.search (w : Window) (exponent : Int) : (fuel : Nat) → Decimal
  | 0 => ⟨0, 0⟩
  | fuel + 1 =>
    match w.onGrid? exponent with
    | some d => d
    | none => search w (exponent - 1) fuel

/-- The least power of ten above `value / unit`, found from `guess` upwards through `fuel` steps. -/
def Window.leadingExponent (w : Window) (guess : Int) : (fuel : Nat) → Int
  | 0 => guess
  | fuel + 1 =>
    if w.value * Nat.pow 10 (-guess).toNat < w.unit * Nat.pow 10 guess.toNat then guess
    else leadingExponent w (guess + 1) fuel

/-- The shortest decimal that rounds to a finite value, without regard to its sign. The search starts at
the power of ten of the leading digit; seventeen digits always suffice. -/
def ofBinary64 (x : Binary64) : Decimal :=
  if x.isZero then ⟨0, 0⟩ else
  let window := Window.ofBinary64 x
  let binary : Int := (x.significand.log2 : Int) + x.scale - 1075
  let leading := window.leadingExponent (binary * 30103 / 100000 - 1) 4
  trim (window.search (leading - 1) 18) 18

/-- All digits written out, with `places` digits at least after a decimal point. -/
def positional (d : Decimal) (places : Nat) : String :=
  let whole := d.digits * Nat.pow 10 d.exponent.toNat
  let shift := (-d.exponent).toNat
  let head := whole / Nat.pow 10 shift
  let tail := if shift = 0 then [] else
    let digits := Nat.toDigits 10 (whole % Nat.pow 10 shift)
    List.replicate (shift - digits.length) '0' ++ digits
  let fraction := tail ++ List.replicate (places - tail.length) '0'
  if fraction.isEmpty then toString head else toString head ++ "." ++ String.ofList fraction

/-- One digit before the point, the others behind it, and the power of ten after an `e`. -/
def scientific (d : Decimal) : String :=
  let digits := Nat.toDigits 10 d.digits
  let exponent := d.exponent + (digits.length - 1 : Nat)
  let fraction := digits.drop 1
  String.ofList (digits.take 1) ++ (if fraction.isEmpty then "" else "." ++ String.ofList fraction)
    ++ "e" ++ toString exponent

end Decimal

namespace Binary64

/-- Puts the sign of `x` before the text of its magnitude. -/
def signed (x : Binary64) (magnitude : String) : String :=
  if x.isNegative then "-" ++ magnitude else magnitude

/-- The shortest digits of a number, never with an exponent, and no point in a whole number. -/
def text (x : Binary64) : String :=
  if x.isNaN then "NaN"
  else if x.isInfinite then x.signed "Infinity"
  else x.signed ((Decimal.ofBinary64 x).positional 0)

/-- The shortest digits of a number with a point or an exponent: an exponent is used from `1e16` upwards
and below `1e-4`. -/
def inspect (x : Binary64) : String :=
  if x.isNaN then "NaN"
  else if x.isInfinite then x.signed "inf"
  else
    let d := Decimal.ofBinary64 x
    let leading := d.exponent + (Nat.toDigits 10 d.digits).length
    if x.isZero || (-4 < leading && leading ≤ 16) then x.signed (d.positional 1)
    else x.signed d.scientific

end Binary64

end TemplateEngine
