/-!
# Decimal digits

`digits` writes a number and `ofDigits` reads one. `ofDigits_digits` says that reading undoes writing.
-/

namespace RelayQuality

def digitChar (d : Nat) : Char := Char.ofNat (48 + d)

def digitValue (c : Char) : Nat := c.toNat - 48

/-- The digits of a number, highest first. -/
def digits (n : Nat) : List Char :=
  if n < 10 then [digitChar n] else digits (n / 10) ++ [digitChar (n % 10)]

/-- Digits read after those that gave `start`. -/
def ofDigitsFrom (start : Nat) (cs : List Char) : Nat := cs.foldl (fun n c => n * 10 + digitValue c) start

def ofDigits (cs : List Char) : Nat := ofDigitsFrom 0 cs

theorem digitValue_digitChar {d : Nat} (h : d < 10) : digitValue (digitChar d) = d := by
  have all : ∀ d, d < 10 → digitValue (digitChar d) = d := by decide
  exact all d h

theorem isDigit_digitChar {d : Nat} (h : d < 10) : (digitChar d).isDigit = true := by
  have all : ∀ d, d < 10 → (digitChar d).isDigit = true := by decide
  exact all d h

theorem ofDigits_digits (n : Nat) : ofDigits (digits n) = n := by
  rw [digits]
  split
  next small => simp [ofDigits, ofDigitsFrom, digitValue_digitChar small]
  next large =>
    have shorter := ofDigits_digits (n / 10)
    simp only [ofDigits, ofDigitsFrom, List.foldl_append, List.foldl_cons, List.foldl_nil] at shorter ⊢
    rw [shorter, digitValue_digitChar (by omega)]
    omega
termination_by n
decreasing_by omega

theorem isDigit_of_mem_digits {n : Nat} {c : Char} (h : c ∈ digits n) : c.isDigit = true := by
  rw [digits] at h
  split at h
  next small => simp only [List.mem_singleton] at h; exact h ▸ isDigit_digitChar small
  next large =>
    rcases List.mem_append.mp h with front | back
    · exact isDigit_of_mem_digits front
    · simp only [List.mem_singleton] at back; exact back ▸ isDigit_digitChar (by omega)
termination_by n
decreasing_by omega

theorem digits_ne_nil (n : Nat) : digits n ≠ [] := by
  rw [digits]; split <;> simp

end RelayQuality
