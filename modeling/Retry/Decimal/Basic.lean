import Retry.Binary64.Basic

/-! Decimals `coefficient · 10^exponent` and their two directions to binary64:
the correctly rounded number of a decimal, and the shortest decimal that reads
back as a given magnitude. The second scans the grids of multiples of a power of
ten from coarse to fine; on the first grid that has a point among the reals
rounding to the magnitude it takes the point nearest to the magnitude. -/
namespace Retry

structure Decimal where
  coefficient : Nat
  exponent : Int
deriving DecidableEq

namespace Decimal

/-- The digits of the coefficient, most significant first. -/
def digits (d : Decimal) : List Char := Nat.toDigits 10 d.coefficient

/-- Ten to the power of the leading digit. -/
def leading (d : Decimal) : Int := d.exponent + d.digits.length - 1

/-- The correctly rounded number. Decimals far outside the range of the format
are decided by their leading digit, so that no power of ten grows with the text. -/
def toBinary64 (negative : Bool) (d : Decimal) : Binary64 :=
  if d.coefficient = 0 ∨ d.leading < -400 then .zero negative
  else if 400 < d.leading then .infinite negative
  else if 0 ≤ d.exponent then .ofRatio negative (d.coefficient * 10 ^ d.exponent.toNat) 1
  else .ofRatio negative d.coefficient (10 ^ (-d.exponent).toNat)

/-- Which of two decimals equally far from a number is written. -/
inductive Tie where
  | up
  | even
deriving DecidableEq

/-- The reals that round to a magnitude, as ends counted in half units. The lower
half-gap is narrower above a power of two; the ends round to the magnitude
itself when it is an even multiple of its spacing. -/
structure Basin where
  low : Nat
  high : Nat
  closed : Bool

def Basin.of (m : Magnitude) : Basin :=
  let gap := Binary64.spacing m.units
  let narrow := decide (1 < gap) && decide (m.units = 2 ^ 52 * gap)
  { low := 2 * m.units - (if narrow then gap / 2 else gap)
    high := 2 * m.units + gap
    closed := m.units / gap % 2 == 0 }

/-- Whether `num / den` half units lie among the reals of the basin. -/
def Basin.holds (b : Basin) (num den : Nat) : Bool :=
  if b.closed then decide (b.low * den ≤ num) && decide (num ≤ b.high * den)
  else decide (b.low * den < num) && decide (num < b.high * den)

/-- The point of the grid of multiples of `10^exponent` that is nearest to the
magnitude among those in its basin. -/
def onGrid? (tie : Tie) (m : Magnitude) (exponent : Int) : Option Nat :=
  let basin := Basin.of m
  let half := 2 * Binary64.scale
  let step := if 0 ≤ exponent then half * 10 ^ exponent.toNat else half
  let den := if 0 ≤ exponent then 1 else 10 ^ (-exponent).toNat
  let value := 2 * m.units * den
  let below := value / step
  let rest := value % step
  let nearer :=
    if 2 * rest < step then below
    else if step < 2 * rest then below + 1
    else match tie with
      | .up => below + 1
      | .even => below + below % 2
  match basin.holds (below * step) den, basin.holds ((below + 1) * step) den with
  | true, true => some nearer
  | true, false => some below
  | false, true => some (below + 1)
  | false, false => none

def scan (tie : Tie) (m : Magnitude) : Nat → Int → Decimal
  | 0, exponent => ⟨0, exponent⟩
  | grids + 1, exponent =>
    match onGrid? tie m exponent with
    | some c => ⟨c, exponent⟩
    | none => scan tie m grids (exponent - 1)

/-- The shortest decimal that rounds to a magnitude, nearest to it among those.
Seventeen digits always suffice, and the first grid tried is coarser than the
leading digit: 30103 / 100000 is the decimal logarithm of two. -/
def shortest (tie : Tie) (m : Magnitude) : Decimal :=
  if m.units = 0 then ⟨0, 0⟩
  else scan tie m 22 ((((m.units.log2 : Int) - 1074) * 30103).fdiv 100000 + 2)

end Decimal
end Retry
