import RelayQuality.Number.Digits
import RelayQuality.Number.Hex

/-!
# Writing settings files

Text is written in the plainest quotes that hold it: basic, literal, basic over lines, literal over lines,
and with escapes where none of these will do.
-/

namespace RelayQuality.Toml

/-- The length of the longest run of a character, behind a run of `run` and a longest of `longest`. -/
def longestRun (c : Char) (run longest : Nat) : List Char → Nat
  | [] => longest
  | d :: rest =>
    if d = c then longestRun c (run + 1) (max longest (run + 1)) rest else longestRun c 0 longest rest

/-- A control character that has to be escaped in every kind of quotes. -/
def isControl (c : Char) : Bool := c != '\t' && c != '\n' && (c.toNat < 32 || c.toNat == 127)

/-- What decides on the quotes for a text. -/
structure Shape where
  /-- The longest run of single quotes. -/
  singles : Nat
  /-- The longest run of double quotes. -/
  doubles : Nat
  backslash : Bool
  control : Bool
  newline : Bool
deriving DecidableEq, Repr

namespace Shape

def of (cs : List Char) : Shape :=
  { singles := longestRun '\'' 0 0 cs
    doubles := longestRun '"' 0 0 cs
    backslash := cs.any (· == '\\')
    control := cs.any isControl
    newline := cs.any (· == '\n') }

end Shape

inductive Quotes where
  | basic
  | literal
  | blockBasic
  | blockLiteral
deriving DecidableEq, Repr

namespace Quotes

def of (s : Shape) : Quotes :=
  if !s.control && !s.backslash && s.doubles == 0 && !s.newline then basic
  else if !s.control && s.singles == 0 && !s.newline then literal
  else if !s.control && !s.backslash && s.doubles ≤ 2 then blockBasic
  else if !s.control && s.singles ≤ 2 then blockLiteral
  else if s.newline then blockBasic
  else basic

def delimiter : Quotes → List Char
  | basic => ['"']
  | literal => ['\'']
  | blockBasic => ['"', '"', '"']
  | blockLiteral => ['\'', '\'', '\'']

end Quotes

def numbered (c : Char) : List Char :=
  ['\\', 'u', '0', '0', upperHexDigit (c.toNat / 16), upperHexDigit (c.toNat % 16)]

/-- Text with escapes. Of double quotes in a row `allowed` stand as they are, of which `run` have been
written; line breaks do so in a block. -/
def escapedFrom (block : Bool) (allowed run : Nat) : List Char → List Char
  | [] => []
  | '"' :: rest =>
    if allowed ≤ run then '\\' :: '"' :: escapedFrom block allowed 0 rest
    else '"' :: escapedFrom block allowed (run + 1) rest
  | c :: rest =>
    (match c with
      | '\x08' => ['\\', 'b']
      | '\t' => ['\\', 't']
      | '\n' => if block then ['\n'] else ['\\', 'n']
      | '\x0c' => ['\\', 'f']
      | '\r' => ['\\', 'r']
      | '\\' => ['\\', '\\']
      | c => if isControl c then numbered c else [c])
      ++ escapedFrom block allowed 0 rest

/-- What stands between quotes for a text. -/
def Quotes.body (q : Quotes) (cs : List Char) : List Char :=
  match q with
  | .basic => escapedFrom false 0 0 cs
  | .literal => cs
  | .blockBasic => if (Shape.of cs).newline then '\n' :: escapedFrom true 2 0 cs else escapedFrom true 2 0 cs
  | .blockLiteral => if (Shape.of cs).newline then '\n' :: cs else cs

def quoted (cs : List Char) : List Char :=
  let q := Quotes.of (Shape.of cs)
  q.delimiter ++ q.body cs ++ q.delimiter

/-- A value that is written to a line. -/
inductive Setting where
  | boolean (b : Bool)
  | integer (n : Nat)
  | text (s : String)
deriving DecidableEq, Repr, Inhabited

namespace Setting

/-- The largest integer that a settings file can hold. -/
def largest : Nat := 9223372036854775807

def written? : Setting → Option (List Char)
  | boolean b => some (if b then ['t', 'r', 'u', 'e'] else ['f', 'a', 'l', 's', 'e'])
  | integer n => if n ≤ largest then some (digits n) else none
  | text s => some (quoted s.toList)

end Setting

def assignment? (name : String) (s : Setting) : Option (List Char) :=
  s.written?.map fun text => name.toList ++ [' ', '=', ' '] ++ text ++ ['\n']

def assignments? : List (String × Setting) → Option (List Char)
  | [] => some []
  | (name, s) :: rest =>
    match assignment? name s, assignments? rest with
    | some line, some lines => some (line ++ lines)
    | _, _ => none

/-- The header of a table with a blank line before it. -/
def headerLine (name : String) : List Char := ['\n', '['] ++ name.toList ++ [']', '\n']

end RelayQuality.Toml
