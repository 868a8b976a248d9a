import Retry.Decimal.Basic
import Retry.Text.Inspect

/-! How a binary64 number is written: the shortest digits, set out as a layout
record decides. -/
namespace Retry

/-- A decision for every choice a decimal notation leaves open. Numbers whose
leading digit stands at a power of ten from `plainFrom` to `plainTo` are written
without an exponent; an absent bound does not bind. -/
structure Layout where
  tie : Decimal.Tie
  plainFrom : Option Int
  plainTo : Option Int
  pointZero : Bool
  signedExponent : Bool
  nan : String
  infinity : String

namespace Layout

def isPlain (l : Layout) (leading : Int) : Bool :=
  l.plainFrom.all (· ≤ leading) && l.plainTo.all (leading ≤ ·)

/-- Digits around a point: zeros fill the places up to it on either side. -/
def plain (l : Layout) (d : Decimal) : List Char :=
  let ds := d.digits
  if 0 ≤ d.exponent then
    ds ++ List.replicate d.exponent.toNat '0' ++ (if l.pointZero then ['.', '0'] else [])
  else
    let places := (-d.exponent).toNat
    if places < ds.length then
      ds.take (ds.length - places) ++ '.' :: ds.drop (ds.length - places)
    else
      ['0', '.'] ++ List.replicate (places - ds.length) '0' ++ ds

/-- One digit before the point, and the power of ten after `e`. -/
def scientific (l : Layout) (d : Decimal) : List Char :=
  let mantissa := match d.digits with
    | lead :: first :: rest => lead :: '.' :: first :: rest
    | ds => ds
  let sign := if d.leading < 0 then ['-'] else if l.signedExponent then ['+'] else []
  mantissa ++ 'e' :: sign ++ Nat.toDigits 10 d.leading.natAbs

def render (l : Layout) : Binary64 → String
  | .nan => l.nan
  | .infinite negative => if negative then "-" ++ l.infinity else l.infinity
  | .finite negative m =>
    let d := Decimal.shortest l.tie m
    let body := if m.units = 0 ∨ l.isPlain d.leading then l.plain d else l.scientific d
    String.ofList (if negative then '-' :: body else body)

/-- The layout of a number inside a displayed structure. -/
def inspection : Layout where
  tie := .up
  plainFrom := some (-4)
  plainTo := some 15
  pointZero := true
  signedExponent := false
  nan := "NaN"
  infinity := "inf"

/-- The layout of a number inside a message: never an exponent. -/
def message : Layout :=
  { inspection with plainFrom := none, plainTo := none, pointZero := false }

/-- The layout of a number inside a document; its non-finite numbers are not
written as numbers at all. -/
def document : Layout :=
  { inspection with tie := .even, plainFrom := some (-5), signedExponent := true }

end Layout

instance : Inspect Binary64 := ⟨Layout.inspection.render⟩

end Retry
