import RelayQuality.Number.Hex
import RelayQuality.Toml.Text
import RelayQuality.Toml.Value

/-!
# Numbers, dates and truth values

A bare value is a date or time, else a number with a point or an exponent, else an integer of 64 bits.
-/

namespace RelayQuality.Toml

/-! ### Digits -/

/-- Digits behind a digit, each of which may have an underscore in front. -/
def moreDigits (isDigit : Char → Bool) : List Char → List Char × List Char
  | [] => ([], [])
  | '_' :: c :: rest =>
    if isDigit c then
      let (ds, rest) := moreDigits isDigit rest
      (c :: ds, rest)
    else ([], '_' :: c :: rest)
  | c :: rest =>
    if isDigit c then
      let (ds, rest) := moreDigits isDigit rest
      (c :: ds, rest)
    else ([], c :: rest)

/-- Digits, the first without an underscore in front. -/
def digits? (isDigit : Char → Bool) : List Char → Option (List Char × List Char)
  | [] => none
  | c :: rest =>
    if isDigit c then
      let (ds, rest) := moreDigits isDigit rest
      some (c :: ds, rest)
    else none

/-- Decimal digits of which the first is a zero only if it is the last. -/
def wholeDigits? : List Char → Option (List Char × List Char)
  | '0' :: rest => some (['0'], rest)
  | cs => digits? Char.isDigit cs

/-- The sign, true below zero, with the text behind it. -/
def signOf : List Char → Bool × List Char
  | '-' :: rest => (true, rest)
  | '+' :: rest => (false, rest)
  | cs => (false, cs)

/-! ### Numbers -/

def fraction? : List Char → Option (Option (List Char) × List Char)
  | '.' :: rest => (digits? Char.isDigit rest).map fun (ds, rest) => (some ds, rest)
  | cs => some (none, cs)

/-- The sign and the digits of an exponent. -/
def power? (cs : List Char) : Option ((Bool × List Char) × List Char) :=
  let (below, cs) := signOf cs
  (digits? Char.isDigit cs).map fun (ds, rest) => ((below, ds), rest)

def exponent? : List Char → Option (Option (Bool × List Char) × List Char)
  | 'e' :: rest => (power? rest).map fun (p, rest) => (some p, rest)
  | 'E' :: rest => (power? rest).map fun (p, rest) => (some p, rest)
  | cs => some (none, cs)

/-- A number with a point or an exponent. It must not be above all doubles. -/
def float? (cs : List Char) : Option (Value × List Char) := do
  let (negative, cs) := signOf cs
  match cs with
  | 'i' :: 'n' :: 'f' :: rest => some (.notFinite, rest)
  | 'n' :: 'a' :: 'n' :: rest => some (.notFinite, rest)
  | cs =>
    let (whole, cs) ← wholeDigits? cs
    let (fraction, cs) ← fraction? cs
    let (exponent, cs) ← exponent? cs
    let number : Decimal := ⟨negative, whole, fraction, exponent⟩
    if number.isInteger || number.nearest == Decimal.infinity then none else some (.float number, cs)

def bounded? (n : Int) : Option Value :=
  if -9223372036854775808 ≤ n ∧ n ≤ 9223372036854775807 then some (.integer n) else none

def ofBase (base : Nat) (ds : List Char) : Nat := ds.foldl (fun n c => n * base + (hexValue? c).getD 0) 0

def based? (base : Nat) (cs : List Char) : Option (Value × List Char) := do
  let (ds, rest) ← digits? (fun c => (hexValue? c).any (· < base)) cs
  some (← bounded? (ofBase base ds), rest)

def decimal? (cs : List Char) : Option (Value × List Char) := do
  let (negative, cs) := signOf cs
  let (ds, rest) ← wholeDigits? cs
  let n : Int := ofDigits ds
  some (← bounded? (if negative then -n else n), rest)

def integer? : List Char → Option (Value × List Char)
  | '0' :: 'x' :: rest => based? 16 rest
  | '0' :: 'o' :: rest => based? 8 rest
  | '0' :: 'b' :: rest => based? 2 rest
  | cs => decimal? cs

/-! ### Dates and times -/

/-- Two digits that write a number between two others. -/
def twoDigits? (low high : Nat) : List Char → Option (Nat × List Char)
  | a :: b :: rest =>
    let n := digitValue a * 10 + digitValue b
    if a.isDigit && b.isDigit && low ≤ n && n ≤ high then some (n, rest) else none
  | _ => none

def behind? (c : Char) : List Char → Option (List Char)
  | d :: rest => if c = d then some rest else none
  | [] => none

def isLeap (year : Nat) : Bool := year % 4 == 0 && (year % 100 != 0 || year % 400 == 0)

def daysOf (year month : Nat) : Nat :=
  if month = 2 then if isLeap year then 29 else 28
  else if month = 4 ∨ month = 6 ∨ month = 9 ∨ month = 11 then 30
  else 31

def date? (cs : List Char) : Option (List Char) := do
  let (century, cs) ← twoDigits? 0 99 cs
  let (yearOfCentury, cs) ← twoDigits? 0 99 cs
  let (month, cs) ← twoDigits? 1 12 (← behind? '-' cs)
  let (day, cs) ← twoDigits? 1 31 (← behind? '-' cs)
  if day ≤ daysOf (century * 100 + yearOfCentury) month then some cs else none

def skipFraction : List Char → List Char
  | '.' :: c :: rest => if c.isDigit then rest.dropWhile Char.isDigit else '.' :: c :: rest
  | cs => cs

/-- The text behind a time of day. A minute may have a sixty-first second. -/
def time? (cs : List Char) : Option (List Char) := do
  let (_, cs) ← twoDigits? 0 23 cs
  let (_, cs) ← twoDigits? 0 59 (← behind? ':' cs)
  let (_, cs) ← twoDigits? 0 60 (← behind? ':' cs)
  some (skipFraction cs)

def offset? (cs : List Char) : Option (List Char) := do
  let (_, cs) ← twoDigits? 0 23 cs
  let (_, cs) ← twoDigits? 0 59 (← behind? ':' cs)
  some cs

def skipOffset (cs : List Char) : List Char :=
  match cs with
  | 'Z' :: rest => rest
  | 'z' :: rest => rest
  | '+' :: rest => (offset? rest).getD cs
  | '-' :: rest => (offset? rest).getD cs
  | _ => cs

def divider? : List Char → Option (List Char)
  | 'T' :: rest => some rest
  | 't' :: rest => some rest
  | ' ' :: rest => some rest
  | _ => none

/-- The text behind a date, a time, or a date with a time and perhaps an offset. -/
def behindDateTime? (cs : List Char) : Option (List Char) :=
  match date? cs with
  | some rest => some (((divider? rest >>= time?).map skipOffset).getD rest)
  | none => time? cs

def dateTime? (cs : List Char) : Option (Value × List Char) :=
  (behindDateTime? cs).map fun rest => (.dateTime (String.ofList (cs.take (cs.length - rest.length))), rest)

/-! ### Bare values -/

def bare? (cs : List Char) : Option (Value × List Char) :=
  match cs with
  | 't' :: 'r' :: 'u' :: 'e' :: rest => some (.boolean true, rest)
  | 'f' :: 'a' :: 'l' :: 's' :: 'e' :: rest => some (.boolean false, rest)
  | cs => dateTime? cs <|> float? cs <|> integer? cs

end RelayQuality.Toml
