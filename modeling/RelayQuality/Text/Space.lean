/-!
# White space

`isSpace` is the white space of Unicode. `trim` takes it from both ends of a text, and `splitFirst?`
divides a text at the first of a character.
-/

namespace RelayQuality

/-- The characters with the property White_Space. -/
def isSpace (c : Char) : Bool :=
  let n := c.toNat
  (9 ≤ n && n ≤ 13) || n == 0x20 || n == 0x85 || n == 0xA0 || n == 0x1680 || (0x2000 ≤ n && n ≤ 0x200A)
    || n == 0x2028 || n == 0x2029 || n == 0x202F || n == 0x205F || n == 0x3000

/-- The text without white space in front. -/
def trimLeft (cs : List Char) : List Char := cs.dropWhile isSpace

/-- The text without white space at either end. -/
def trim (cs : List Char) : List Char := (trimLeft (trimLeft cs).reverse).reverse

/-- The text before and the text behind the first of a character. -/
def splitFirst? (c : Char) : List Char → Option (List Char × List Char)
  | [] => none
  | d :: rest =>
    if d = c then some ([], rest) else (splitFirst? c rest).map fun (front, back) => (d :: front, back)

end RelayQuality
