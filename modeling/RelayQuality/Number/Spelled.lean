import RelayQuality.Number.Decimal

/-!
# Numbers as they are typed

Counts, integers and doubles in the forms that a command line takes: nothing around the digits, and a
sign in front at most.
-/

namespace RelayQuality

namespace Spelled

def digits? (cs : List Char) : Option Nat :=
  if cs.isEmpty || !cs.all Char.isDigit then none else some (ofDigits cs)

/-- A count of 64 bits, with a plus at most. -/
def count? (text : String) : Option Nat :=
  let digits :=
    match text.toList with
    | '+' :: rest => digits? rest
    | cs => digits? cs
  digits.filter (· ≤ 18446744073709551615)

def integer? (text : String) : Option Int :=
  let n : Option Int :=
    match text.toList with
    | '-' :: rest => (digits? rest).map fun n => -(n : Int)
    | '+' :: rest => (digits? rest).map fun n => (n : Int)
    | cs => (digits? cs).map fun n => (n : Int)
  n.filter fun n => -9223372036854775808 ≤ n && n ≤ 9223372036854775807

/-- An exponent with its sign, or nothing. -/
def exponent? : List Char → Option (Option (Bool × List Char))
  | [] => some none
  | e :: rest =>
    if e = 'e' ∨ e = 'E' then
      let (below, ds) : Bool × List Char :=
        match rest with
        | '-' :: rest => (true, rest)
        | '+' :: rest => (false, rest)
        | rest => (false, rest)
      (digits? ds).map fun _ => some (below, ds)
    else none

/-- The digits in front of a text, and the rest. -/
def splitDigits (cs : List Char) : List Char × List Char := (cs.takeWhile Char.isDigit, cs.dropWhile Char.isDigit)

/-- A number without a sign in front. A point needs a digit on one side at least. -/
def decimal? (negative : Bool) (cs : List Char) : Option Decimal :=
  let (whole, rest) := splitDigits cs
  let (fraction, rest) : Option (List Char) × List Char :=
    match rest with
    | '.' :: rest => (some (splitDigits rest).1, (splitDigits rest).2)
    | rest => (none, rest)
  if whole.isEmpty && (fraction.getD []).isEmpty then none
  else (exponent? rest).map fun exponent => ⟨negative, whole, fraction, exponent⟩

def nan : Float := 0.0 / 0.0

/-- A double: a number, or a word for an infinity or for what is no number. -/
def double? (text : String) : Option Float :=
  let (negative, cs) : Bool × List Char :=
    match text.toList with
    | '-' :: rest => (true, rest)
    | '+' :: rest => (false, rest)
    | cs => (false, cs)
  let word := String.ofList (cs.map Char.toLower)
  if word = "inf" ∨ word = "infinity" then some (Decimal.signed negative Decimal.infinity)
  else if word = "nan" then some (Decimal.signed negative nan)
  else (decimal? negative cs).map Decimal.nearest

end Spelled

end RelayQuality
