import Retry.Decimal.Basic
import Retry.Text.Digits

/-! Numbers in plain text. A whole number is digits after an optional plus sign. A
floating-point number has an optional sign, digits with at most one point among or
around them, and an optional power of ten; `inf`, `infinity` and `nan` stand for the
numbers that are not finite, in letters of either case. -/
namespace Retry

namespace Decimal

/-- A text of one digit or more. -/
def digits? (cs : List Char) : Option Nat :=
  if cs ≠ [] ∧ cs.all Char.isDigit then some (Text.digitsValue cs) else none

/-- A whole number below `limit`. -/
def whole? (limit : Nat) (s : String) : Option Nat :=
  let digits := match s.toList with
    | '+' :: rest => rest
    | cs => cs
  (digits? digits).filter (· < limit)

/-- A sign in front and the rest. -/
def signed : List Char → Bool × List Char
  | '-' :: rest => (true, rest)
  | '+' :: rest => (false, rest)
  | cs => (false, cs)

/-- The power of ten that ends a number: none when nothing is left. -/
def power? : List Char → Option Int
  | [] => some 0
  | c :: rest =>
    if c = 'e' ∨ c = 'E' then
      let (negative, ds) := signed rest
      (digits? ds).map fun n => if negative then -(n : Int) else n
    else none

/-- Digits, a point among or around them, and a power of ten. -/
def magnitude? (cs : List Char) : Option Decimal :=
  let whole := cs.takeWhile Char.isDigit
  let rest := cs.dropWhile Char.isDigit
  let (part, rest) : List Char × List Char := match rest with
    | '.' :: rest => (rest.takeWhile Char.isDigit, rest.dropWhile Char.isDigit)
    | rest => ([], rest)
  if whole = [] ∧ part = [] then none
  else (power? rest).map fun e => ⟨Text.digitsValue (whole ++ part), e - part.length⟩

def read? (s : String) : Option Binary64 :=
  let (negative, cs) := signed s.toList
  let word := String.ofList (cs.map Char.toLower)
  if word = "inf" ∨ word = "infinity" then some (.infinite negative)
  else if word = "nan" then some .nan
  else (magnitude? cs).map (toBinary64 negative)

end Decimal
end Retry
