import RelayQuality.Number.Hex

/-!
# Writing data files

`Json.Layout` is a document to be written with one item on a line, two blanks of indentation for each
level, and nothing between the brackets of what is empty.
-/

namespace RelayQuality.Json

/-- A character as it stands in a string. -/
def escape (c : Char) : List Char :=
  match c with
  | '"' => ['\\', '"']
  | '\\' => ['\\', '\\']
  | '\n' => ['\\', 'n']
  | '\r' => ['\\', 'r']
  | '\t' => ['\\', 't']
  | '\x08' => ['\\', 'b']
  | '\x0c' => ['\\', 'f']
  | c =>
    if c.toNat < 32 then ['\\', 'u', '0', '0', hexDigit (c.toNat / 16), hexDigit (c.toNat % 16)] else [c]

def quoted (text : String) : String := String.ofList ('"' :: text.toList.flatMap escape ++ ['"'])

/-- A document to be written. -/
inductive Layout where
  | string (text : String)
  | integer (n : Int)
  | array (items : List Layout)
  | object (members : List (String × Layout))
deriving Inhabited

namespace Layout

def indentation (level : Nat) : String := String.ofList (List.replicate (2 * level) ' ')

def bracketed (opening closing : String) (level : Nat) (lines : List String) : String :=
  match lines with
  | [] => opening ++ closing
  | lines =>
    opening ++ "\n" ++ ",\n".intercalate (lines.map (indentation (level + 1) ++ ·)) ++ "\n"
      ++ indentation level ++ closing

mutual

def textAt (level : Nat) : Layout → String
  | string text => quoted text
  | integer n => toString n
  | array items => bracketed "[" "]" level (linesOfItems level items)
  | object members => bracketed "\x7b" "\x7d" level (linesOfMembers level members)

def linesOfItems (level : Nat) : List Layout → List String
  | [] => []
  | item :: rest => textAt (level + 1) item :: linesOfItems level rest

def linesOfMembers (level : Nat) : List (String × Layout) → List String
  | [] => []
  | (name, value) :: rest => (quoted name ++ ": " ++ textAt (level + 1) value) :: linesOfMembers level rest

end

def text (d : Layout) : String := d.textAt 0

end Layout

end RelayQuality.Json
