import RelayQuality.Json.Value
import RelayQuality.Number.Hex

/-!
# Reading data files

`Json.read?` reads one value with nothing but blanks around it. The notation is taken strictly: no
comments, no spare commas, no bare control characters.
-/

namespace RelayQuality.Json

/-- The four characters that may stand between parts. -/
def isBlank (c : Char) : Bool := c == ' ' || c == '\t' || c == '\n' || c == '\r'

def skipBlanks (cs : List Char) : List Char := cs.dropWhile isBlank

/-! ### Numbers -/

/-- Digits in front, and the text behind them. -/
def splitDigits (cs : List Char) : List Char × List Char := (cs.takeWhile Char.isDigit, cs.dropWhile Char.isDigit)

def someDigits? (cs : List Char) : Option (List Char × List Char) :=
  match splitDigits cs with
  | ([], _) => none
  | found => some found

/-- Digits before the point: a zero stands alone. -/
def whole? (cs : List Char) : Option (List Char × List Char) :=
  match someDigits? cs with
  | some ('0' :: _ :: _, _) => none
  | found => found

/-- A point with digits, or nothing. -/
def fraction? : List Char → Option (Option (List Char) × List Char)
  | '.' :: cs => (someDigits? cs).map fun (ds, rest) => (some ds, rest)
  | cs => some (none, cs)

/-- A sign of an exponent with its digits. -/
def power? : List Char → Option ((Bool × List Char) × List Char)
  | '+' :: cs => (someDigits? cs).map fun (ds, rest) => ((false, ds), rest)
  | '-' :: cs => (someDigits? cs).map fun (ds, rest) => ((true, ds), rest)
  | cs => (someDigits? cs).map fun (ds, rest) => ((false, ds), rest)

def exponent? : List Char → Option ((Option (Bool × List Char)) × List Char)
  | 'e' :: cs => (power? cs).map fun (p, rest) => (some p, rest)
  | 'E' :: cs => (power? cs).map fun (p, rest) => (some p, rest)
  | cs => some (none, cs)

def unsigned? (negative : Bool) (cs : List Char) : Option (Decimal × List Char) := do
  let (whole, cs) ← whole? cs
  let (fraction, cs) ← fraction? cs
  let (exponent, cs) ← exponent? cs
  some (⟨negative, whole, fraction, exponent⟩, cs)

def decimal? : List Char → Option (Decimal × List Char)
  | '-' :: cs => unsigned? true cs
  | cs => unsigned? false cs

/-! ### Strings -/

/-- One 16-bit unit of a string, or a character that was not escaped. -/
inductive Unit16 where
  | plain (c : Char)
  | escaped (unit : Nat)
deriving DecidableEq, Repr

/-- The character behind a backslash, other than `u`. -/
def simpleEscape? : Char → Option Char
  | '"' => some '"'
  | '\\' => some '\\'
  | '/' => some '/'
  | 'b' => some '\x08'
  | 'f' => some '\x0c'
  | 'n' => some '\n'
  | 'r' => some '\r'
  | 't' => some '\t'
  | _ => none

/-- The rest of a string behind its opening quote, up to its closing quote. -/
def units? : List Char → Option (List Unit16 × List Char)
  | [] => none
  | '"' :: rest => some ([], rest)
  | '\\' :: 'u' :: a :: b :: c :: d :: rest => do
    let unit ← ofHex? [a, b, c, d]
    let (us, rest) ← units? rest
    some (.escaped unit :: us, rest)
  | '\\' :: c :: rest => do
    let plain ← simpleEscape? c
    let (us, rest) ← units? rest
    some (.plain plain :: us, rest)
  | c :: rest =>
    if c = '\\' ∨ c.toNat < 32 then none
    else (units? rest).map fun (us, rest) => (.plain c :: us, rest)

/-- The text of units, in which each high surrogate is followed by a low one and no other low one
stands; none for others. -/
def textOf? : List Unit16 → Option (List Char)
  | [] => some []
  | .plain c :: rest => (textOf? rest).map (c :: ·)
  | .escaped high :: .escaped low :: rest =>
    if 0xD800 ≤ high ∧ high < 0xDC00 then
      if 0xDC00 ≤ low ∧ low < 0xE000 then
        (textOf? rest).map (Char.ofNat (0x10000 + (high - 0xD800) * 0x400 + (low - 0xDC00)) :: ·)
      else none
    else if 0xDC00 ≤ high ∧ high < 0xE000 then none
    else (textOf? (.escaped low :: rest)).map (Char.ofNat high :: ·)
  | .escaped unit :: rest =>
    if 0xD800 ≤ unit ∧ unit < 0xE000 then none else (textOf? rest).map (Char.ofNat unit :: ·)

def string? (cs : List Char) : Option (Option String × List Char) :=
  (units? cs).map fun (us, rest) => ((textOf? us).map String.ofList, rest)

/-! ### Values -/

def word? (word : List Char) (cs : List Char) : Option (List Char) :=
  if word.isPrefixOf cs then some (cs.drop word.length) else none

mutual

/-- A value at the start of a text; `fuel` bounds the depth and the length of what it holds. -/
def value? : Nat → List Char → Option (Value × List Char)
  | 0, _ => none
  | fuel + 1, cs =>
    match cs with
    | 'n' :: rest => (word? "ull".toList rest).map fun rest => (.null, rest)
    | 't' :: rest => (word? "rue".toList rest).map fun rest => (.boolean true, rest)
    | 'f' :: rest => (word? "alse".toList rest).map fun rest => (.boolean false, rest)
    | '"' :: rest => (string? rest).map fun (s, rest) => (.string s, rest)
    | '[' :: rest =>
      match skipBlanks rest with
      | ']' :: rest => some (.array [], rest)
      | rest => (items? fuel rest).map fun (vs, rest) => (.array vs, rest)
    | '\x7b' :: rest =>
      match skipBlanks rest with
      | '\x7d' :: rest => some (.object [], rest)
      | rest => (members? fuel rest).map fun (ms, rest) => (.object ms, rest)
    | cs => (decimal? cs).map fun (n, rest) => (.number n, rest)

def items? : Nat → List Char → Option (List Value × List Char)
  | 0, _ => none
  | fuel + 1, cs =>
    match value? fuel cs with
    | none => none
    | some (v, rest) =>
      match skipBlanks rest with
      | ']' :: rest => some ([v], rest)
      | ',' :: rest => (items? fuel (skipBlanks rest)).map fun (vs, rest) => (v :: vs, rest)
      | _ => none

def members? : Nat → List Char → Option ((List (Option String × Value)) × List Char)
  | 0, _ => none
  | fuel + 1, cs =>
    match cs with
    | '"' :: rest =>
      match string? rest with
      | none => none
      | some (name, rest) =>
        match skipBlanks rest with
        | ':' :: rest =>
          match value? fuel (skipBlanks rest) with
          | none => none
          | some (v, rest) =>
            match skipBlanks rest with
            | '\x7d' :: rest => some ([(name, v)], rest)
            | ',' :: rest => (members? fuel (skipBlanks rest)).map fun (ms, rest) => ((name, v) :: ms, rest)
            | _ => none
        | _ => none
    | _ => none

end

def read? (text : String) : Option Value :=
  let cs := text.toList
  match value? (cs.length + 1) (skipBlanks cs) with
  | some (v, rest) => if (skipBlanks rest).isEmpty then some v else none
  | none => none

end RelayQuality.Json
