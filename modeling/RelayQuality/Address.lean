/-!
# Addresses of version 4

An `Address` is 32 bits, written as four octets with points between.
-/

namespace RelayQuality

/-- An address of the internet protocol, version 4. -/
structure Address where
  bits : UInt32
deriving DecidableEq, Repr, Inhabited

namespace Address

def ofOctets (a b c d : Nat) : Address := ⟨UInt32.ofNat (((a * 256 + b) * 256 + c) * 256 + d)⟩

/-- The octet that has the given number of octets to its right. -/
def octet (a : Address) (right : Nat) : Nat := a.bits.toNat / Nat.pow 256 right % 256

/-- The address that lies so many places further; the first follows the last. -/
def offset (a : Address) (n : Nat) : Address := ⟨a.bits + UInt32.ofNat n⟩

def text (a : Address) : String :=
  ".".intercalate [toString (a.octet 3), toString (a.octet 2), toString (a.octet 1), toString (a.octet 0)]

/-- The value of one to three decimal digits, up to 255 and without a zero in front. -/
def octet? (digits : List Char) : Option Nat :=
  if digits.isEmpty || !digits.all Char.isDigit || 3 < digits.length then none
  else if digits.head? == some '0' && 1 < digits.length then none
  else
    let value := digits.foldl (fun n c => n * 10 + (c.toNat - '0'.toNat)) 0
    if value ≤ 255 then some value else none

def parts : List Char → List (List Char)
  | [] => [[]]
  | c :: rest =>
    if c = '.' then [] :: parts rest
    else match parts rest with
      | [] => [[c]]
      | part :: others => (c :: part) :: others

/-- The address that a text writes in its only form. -/
def ofText? (text : String) : Option Address :=
  match parts text.toList with
  | [a, b, c, d] => do some (ofOctets (← octet? a) (← octet? b) (← octet? c) (← octet? d))
  | _ => none

end Address

end RelayQuality
