import Retry.Binary64.Arithmetic
import Retry.Text.Inspect

/-! Spans of time in whole nanoseconds. The clock has no end; `Duration.max` is the
longest span that a delay can ask for, 2^64 - 1 seconds and 999999999 nanoseconds. -/
namespace Retry

structure Duration where
  nanos : Nat
deriving DecidableEq

namespace Duration

def zero : Duration := ⟨0⟩

def max : Duration := ⟨2 ^ 64 * 1000000000 - 1⟩

def ofMillis (ms : Nat) : Duration := ⟨ms * 1000000⟩

/-- Whole milliseconds. -/
def millis (d : Duration) : Nat := d.nanos / 1000000

instance : LE Duration := ⟨fun a b => a.nanos ≤ b.nanos⟩
instance : LT Duration := ⟨fun a b => a.nanos < b.nanos⟩
instance (a b : Duration) : Decidable (a ≤ b) := inferInstanceAs (Decidable (a.nanos ≤ b.nanos))
instance (a b : Duration) : Decidable (a < b) := inferInstanceAs (Decidable (a.nanos < b.nanos))
instance : Add Duration := ⟨fun a b => ⟨a.nanos + b.nanos⟩⟩

/-- Zero when the first span is the shorter. -/
instance : Sub Duration := ⟨fun a b => ⟨a.nanos - b.nanos⟩⟩

/-- The whole number of nanoseconds nearest to `x`: no time for NaN and numbers up
to zero, and `max` from 2^64 on. -/
def ofNanos (x : Binary64) : Duration :=
  match x with
  | .nan => zero
  | .infinite negative => if negative then zero else max
  | .finite negative m =>
    if negative ∨ m.units = 0 then zero
    else if 2 ^ 64 * Binary64.scale ≤ m.units then max
    else ⟨m.round⟩

/-- `n / unit` as a decimal of at most `places` places without zeros at its end. -/
def decimalText (n unit places : Nat) (suffix : String) : String :=
  let part := Nat.toDigits 10 (n % unit)
  let part := List.replicate (places - part.length) '0' ++ part
  let part := (part.reverse.dropWhile (· == '0')).reverse
  toString (n / unit) ++ (if part.isEmpty then "" else "." ++ String.ofList part) ++ suffix

/-- In the largest unit that the span reaches. -/
instance : Inspect Duration where
  inspect d :=
    if 1000000000 ≤ d.nanos then decimalText d.nanos 1000000000 9 "s"
    else if 1000000 ≤ d.nanos then decimalText d.nanos 1000000 6 "ms"
    else if 1000 ≤ d.nanos then decimalText d.nanos 1000 3 "µs"
    else decimalText d.nanos 1 0 "ns"

end Duration

end Retry
