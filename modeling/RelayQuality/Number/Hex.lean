/-!
# Hexadecimal digits

`hexDigit` and `upperHexDigit` write a number below sixteen, `hexValue?` reads a digit in either case.
-/

namespace RelayQuality

/-- The hexadecimal digit for a number below sixteen, in small letters. -/
def hexDigit (d : Nat) : Char := if d < 10 then Char.ofNat (48 + d) else Char.ofNat (87 + d)

/-- The hexadecimal digit for a number below sixteen, in capital letters. -/
def upperHexDigit (d : Nat) : Char := if d < 10 then Char.ofNat (48 + d) else Char.ofNat (55 + d)

def hexValue? (c : Char) : Option Nat :=
  if '0' ≤ c ∧ c ≤ '9' then some (c.toNat - '0'.toNat)
  else if 'a' ≤ c ∧ c ≤ 'f' then some (c.toNat - 'a'.toNat + 10)
  else if 'A' ≤ c ∧ c ≤ 'F' then some (c.toNat - 'A'.toNat + 10)
  else none

/-- The number that hexadecimal digits write. -/
def ofHex? (cs : List Char) : Option Nat :=
  cs.foldlM (fun n c => (hexValue? c).map (n * 16 + ·)) 0

theorem hexValue?_upperHexDigit {d : Nat} (h : d < 16) : hexValue? (upperHexDigit d) = some d := by
  have all : ∀ d, d < 16 → hexValue? (upperHexDigit d) = some d := by decide
  exact all d h

end RelayQuality
