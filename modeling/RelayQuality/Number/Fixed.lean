/-!
# Doubles in fixed places

`Binary.ofBits` reads the exact value of a double, and `fixed` prints it with a given number of
decimals, a half going to the even neighbour.
-/

namespace RelayQuality

/-- What the 64 bits of a double stand for; a finite one is `mantissa * 2 ^ (shift - 1074)`. -/
inductive Binary where
  | nan
  | infinite (negative : Bool)
  | finite (negative : Bool) (mantissa : Nat) (shift : Nat)
deriving DecidableEq, Repr

namespace Binary

def ofBits (bits : UInt64) : Binary :=
  let n := bits.toNat
  let negative := decide (9223372036854775808 ≤ n)
  let exponent := n / 4503599627370496 % 2048
  let fraction := n % 4503599627370496
  if exponent = 2047 then if fraction = 0 then infinite negative else nan
  else if exponent = 0 then finite negative fraction 0
  else finite negative (4503599627370496 + fraction) (exponent - 1)

end Binary

/-- The whole number nearest to `num / den`; of two equally near, the even one. -/
def roundHalfEven (num den : Nat) : Nat :=
  let quotient := num / den
  let twice := 2 * (num % den)
  if den < twice ∨ (twice = den ∧ quotient % 2 = 1) then quotient + 1 else quotient

/-- The digits of a number of which the last `places` follow the point. -/
def pointed (places n : Nat) : String :=
  let digits := (toString n).toList
  let padded := List.replicate (places + 1 - digits.length) '0' ++ digits
  let whole := padded.length - places
  String.ofList (padded.take whole) ++ "." ++ String.ofList (padded.drop whole)

/-- A double with exactly `places` decimals. The sign is kept also before zero. -/
def fixed (places : Nat) (x : Float) : String :=
  match Binary.ofBits x.toBits with
  | .nan => "NaN"
  | .infinite negative => if negative then "-inf" else "inf"
  | .finite negative mantissa shift =>
    let scaled := roundHalfEven (mantissa * Nat.pow 2 shift * Nat.pow 10 places) (Nat.pow 2 1074)
    (if negative then "-" else "") ++ pointed places scaled

end RelayQuality
