import RelayQuality.Number.Hex
import RelayQuality.Toml.Text

/-!
# Quoted text

A basic string has escapes, a literal string has none, and both may run over lines between three
quotes. The readers here begin behind the opening quote and give the text with what follows the
closing quote.
-/

namespace RelayQuality.Toml

/-- The character behind a backslash, other than `u` and `U`. -/
def simpleEscape? : Char → Option Char
  | 'b' => some '\x08'
  | 't' => some '\t'
  | 'n' => some '\n'
  | 'f' => some '\x0c'
  | 'r' => some '\r'
  | '"' => some '"'
  | '\\' => some '\\'
  | _ => none

/-- The character with a hexadecimal number, if there is one. -/
def escaped? (digits : List Char) : Option Char :=
  match ofHex? digits with
  | some n => if n < 0xD800 ∨ (0xE000 ≤ n ∧ n < 0x110000) then some (Char.ofNat n) else none
  | none => none

/-- A character in front of text that was found. -/
def before : Option Char → Option (List Char × List Char) → Option (List Char × List Char)
  | some c, some (cs, rest) => some (c :: cs, rest)
  | _, _ => none

/-- A string on one line, with escapes. -/
def basic? : List Char → Option (List Char × List Char)
  | [] => none
  | '"' :: rest => some ([], rest)
  | '\\' :: 'u' :: a :: b :: c :: d :: rest => before (escaped? [a, b, c, d]) (basic? rest)
  | '\\' :: 'U' :: a :: b :: c :: d :: e :: f :: g :: h :: rest =>
    before (escaped? [a, b, c, d, e, f, g, h]) (basic? rest)
  | '\\' :: c :: rest => before (simpleEscape? c) (basic? rest)
  | c :: rest => if isPlain c && c != '\\' then before (some c) (basic? rest) else none

/-- A string on one line, without escapes. -/
def literal? : List Char → Option (List Char × List Char)
  | [] => none
  | '\'' :: rest => some ([], rest)
  | c :: rest => if isPlain c then before (some c) (literal? rest) else none

/-- The end of a string over lines: three quotes, before which one or two may belong to the text. -/
def closing? (quote : Char) (cs : List Char) : Option (List Char × List Char) :=
  let run := min 5 (cs.takeWhile (· == quote)).length
  if 3 ≤ run then some (List.replicate (run - 3) quote, cs.drop run) else none

/-- Only blanks are left of the line. -/
def isLineRest (cs : List Char) : Bool := (newline? (skipBlanks cs)).isSome

/-- A string over lines, with escapes. A backslash at the end of a line takes away the line break and
all blanks and line breaks behind it, which is what `skipping` means. -/
def blockBasic? (skipping : Bool) : List Char → Option (List Char × List Char)
  | [] => none
  | '\n' :: rest => if skipping then blockBasic? true rest else before (some '\n') (blockBasic? false rest)
  | '\r' :: '\n' :: rest =>
    if skipping then blockBasic? true rest else before (some '\n') (blockBasic? false rest)
  | '"' :: rest =>
    match closing? '"' ('"' :: rest) with
    | some found => some found
    | none => before (some '"') (blockBasic? false rest)
  | '\\' :: 'u' :: a :: b :: c :: d :: rest => before (escaped? [a, b, c, d]) (blockBasic? false rest)
  | '\\' :: 'U' :: a :: b :: c :: d :: e :: f :: g :: h :: rest =>
    before (escaped? [a, b, c, d, e, f, g, h]) (blockBasic? false rest)
  | '\\' :: c :: rest =>
    if isLineRest (c :: rest) then blockBasic? true rest else before (simpleEscape? c) (blockBasic? false rest)
  | c :: rest =>
    if skipping && isBlank c then blockBasic? true rest
    else if isPlain c && c != '\\' then before (some c) (blockBasic? false rest)
    else none

/-- A string over lines, without escapes. -/
def blockLiteral? : List Char → Option (List Char × List Char)
  | [] => none
  | '\n' :: rest => before (some '\n') (blockLiteral? rest)
  | '\r' :: '\n' :: rest => before (some '\n') (blockLiteral? rest)
  | '\'' :: rest =>
    match closing? '\'' ('\'' :: rest) with
    | some found => some found
    | none => before (some '\'') (blockLiteral? rest)
  | c :: rest => if isPlain c then before (some c) (blockLiteral? rest) else none

def skipNewline (cs : List Char) : List Char := (newline? cs).getD cs

/-- A string of any kind, from its opening quote. -/
def string? (cs : List Char) : Option (String × List Char) :=
  let found :=
    match cs with
    | '"' :: '"' :: '"' :: rest => blockBasic? false (skipNewline rest)
    | '"' :: rest => basic? rest
    | '\'' :: '\'' :: '\'' :: rest => blockLiteral? (skipNewline rest)
    | '\'' :: rest => literal? rest
    | _ => none
  found.map fun (text, rest) => (String.ofList text, rest)

end RelayQuality.Toml
