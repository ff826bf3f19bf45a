import RelayQuality.Number.Digits

/-!
# Reading decimal numbers

`Decimal.nearest` is the double nearest to a decimal. `Decimal.scaled?` is the double that data files
are read with: the leading digits as a 64-bit significand, scaled by one power of ten.
-/

namespace RelayQuality

structure Decimal where
  negative : Bool := false
  whole : List Char
  fraction : Option (List Char) := none
  /-- The sign (true below zero) and the digits of the exponent, if there is one. -/
  exponent : Option (Bool × List Char) := none
deriving DecidableEq, Repr, Inhabited

namespace Decimal

def power (d : Decimal) : Int :=
  match d.exponent with
  | none => 0
  | some (below, digits) => if below then -(ofDigits digits : Int) else ofDigits digits

def significant (d : Decimal) : List Char := d.whole ++ d.fraction.getD []

def isInteger (d : Decimal) : Bool := d.fraction.isNone && d.exponent.isNone

def signed (negative : Bool) (x : Float) : Float := if negative then -x else x

def infinity : Float := 1.0 / 0.0

/-- The double nearest to the number, without its sign. -/
def magnitude (d : Decimal) : Float :=
  let n := ofDigits d.significant
  let shift := d.power - (d.fraction.getD []).length
  let size := (digits n).length + shift
  if n = 0 then 0.0
  else if 400 < size then infinity
  else if size < -400 then 0.0
  else if 0 ≤ shift then Float.ofScientific n false shift.toNat
  else Float.ofScientific n true (-shift).toNat

def nearest (d : Decimal) : Float := signed d.negative d.magnitude

/-! ### Significand and scale -/

def maxSignificand : Nat := 18446744073709551615

/-- The largest exponent that is read. -/
def maxExponent : Nat := 2147483647

/-- Take digits into a significand until one does not fit; the result is the significand and the
digits left over. -/
def absorb (significand : Nat) : List Char → Nat × List Char
  | [] => (significand, [])
  | c :: rest =>
    if maxSignificand < significand * 10 + digitValue c then (significand, c :: rest)
    else absorb (significand * 10 + digitValue c) rest

def tenTo (n : Nat) : Float := Float.ofScientific 1 false n

/-- A double times a power of ten, in steps that a double can hold; none if it grows too large. -/
def scale? (x : Float) (power : Int) : Option Float :=
  if power.natAbs ≤ 308 then
    if 0 ≤ power then
      let product := x * tenTo power.natAbs
      if product == infinity then none else some product
    else some (x / tenTo power.natAbs)
  else if x == 0.0 then some x
  else if 0 ≤ power then none
  else scale? (x / 1e308) (power + 308)
termination_by power.natAbs
decreasing_by omega

/-- The double that the number stands for in a data file; none if it is too large. -/
def scaled? (d : Decimal) : Option Float :=
  let (high, unread) := absorb 0 d.whole
  let decimals := d.fraction.getD []
  let (significand, skipped) := absorb high decimals
  let shift : Int := unread.length - (decimals.length - skipped.length : Nat)
  match d.exponent with
  | none => (scale? (Float.ofNat significand) shift).map (signed d.negative)
  | some (below, places) =>
    if maxExponent < ofDigits places then
      if significand ≠ 0 ∧ !below then none else some (signed d.negative 0.0)
    else (scale? (Float.ofNat significand) (shift + d.power)).map (signed d.negative)

/-- The count that the number stands for in a data file, at most 64 bits and without a sign. -/
def count? (d : Decimal) : Option Nat :=
  let n := ofDigits d.whole
  if d.isInteger && !d.negative && n ≤ maxSignificand then some n else none

end Decimal

end RelayQuality
