import Retry.Binary64.Basic

/-! Arithmetic on binary64 numbers. Each operation forms its exact result in
integers and rounds it once, so it is the correctly rounded operation of the
format. Powers multiply by repeated squaring and round every product. -/
namespace Retry.Binary64

def neg : Binary64 → Binary64
  | .nan => .nan
  | .infinite n => .infinite !n
  | .finite n m => .finite (!n) m

/-- Both units make the product a count of 2^-2148, hence the division by `scale`. -/
def mul : Binary64 → Binary64 → Binary64
  | .nan, _ | _, .nan => .nan
  | .infinite a, .infinite b => .infinite (a != b)
  | .infinite a, .finite b y => if y.units = 0 then .nan else .infinite (a != b)
  | .finite a x, .infinite b => if x.units = 0 then .nan else .infinite (a != b)
  | .finite a x, .finite b y => ofQuotient (a != b) (x.units * y.units) scale

/-- A zero sum is negative only when both terms are. -/
def add : Binary64 → Binary64 → Binary64
  | .nan, _ | _, .nan => .nan
  | .infinite a, .infinite b => if a = b then .infinite a else .nan
  | .infinite a, .finite .. => .infinite a
  | .finite .., .infinite b => .infinite b
  | .finite a x, .finite b y =>
    let sum := signed a x + signed b y
    if sum = 0 then zero (a && b) else ofQuotient (sum < 0) sum.natAbs 1

def sub (x y : Binary64) : Binary64 := add x (neg y)

instance : Neg Binary64 := ⟨neg⟩
instance : Mul Binary64 := ⟨mul⟩
instance : Add Binary64 := ⟨add⟩
instance : Sub Binary64 := ⟨sub⟩

/-- One half. -/
def half : Binary64 := ofRatio false 1 2

/-- Squares `base` once for every bit of the exponent after the first, and
multiplies `acc` by the current square where the exponent has a one. -/
def powerLoop : Nat → Binary64 → Binary64 → Nat → Binary64
  | 0, acc, base, e => if e % 2 = 1 then acc * base else acc
  | bits + 1, acc, base, e =>
    powerLoop bits (if e % 2 = 1 then acc * base else acc) (base * base) (e / 2)

/-- `base` to the power `e`, each product rounded. -/
def power (base : Binary64) (e : Nat) : Binary64 := powerLoop e.log2 1 base e

end Retry.Binary64

/-- The integer nearest to a magnitude, a half going up. -/
def Retry.Magnitude.round (m : Magnitude) : Nat :=
  (2 * m.units + Binary64.scale) / (2 * Binary64.scale)
