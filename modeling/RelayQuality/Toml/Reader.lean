import RelayQuality.Toml.Quoted
import RelayQuality.Toml.Scalar

/-!
# Reading settings files

`Toml.read?` reads a whole file. The file is a list of lines, which make a table of their own up to the
first header and one table for each header.
-/

namespace RelayQuality.Toml

/-! ### Keys -/

/-- A character of a name without quotes. -/
def isBare (c : Char) : Bool := c.isAlphanum || c == '_' || c == '-'

def name? (cs : List Char) : Option (String × List Char) :=
  match cs with
  | '"' :: rest => (basic? rest).map fun (text, rest) => (String.ofList text, rest)
  | '\'' :: rest => (literal? rest).map fun (text, rest) => (String.ofList text, rest)
  | cs =>
    match cs.takeWhile isBare with
    | [] => none
    | text => some (String.ofList text, cs.dropWhile isBare)

/-- Names with points between; blanks may stand around each. `fuel` bounds their number. -/
def names? : Nat → List Char → Option (List String × List Char)
  | 0, _ => none
  | fuel + 1, cs =>
    match name? (skipBlanks cs) with
    | none => none
    | some (name, rest) =>
      match skipBlanks rest with
      | '.' :: rest => (names? fuel rest).map fun (names, rest) => (name :: names, rest)
      | rest => some ([name], rest)

/-- The largest number of names in a key, and of brackets around a value. -/
def deepest : Nat := 79

/-- A key: the names before the last, and the last. -/
def key? (cs : List Char) : Option ((List String × String) × List Char) :=
  match names? deepest cs with
  | some (names, rest) => names.getLast?.map fun last => ((names.dropLast, last), rest)
  | none => none

/-! ### Values -/

structure Pair where
  path : List String
  name : String
  value : Value
deriving Inhabited

def fill? (pairs : List Pair) (es : Entries) : Option Entries :=
  pairs.foldlM (fun es p => es.put? p.path p.name p.value) es

mutual

/-- A value inside at most `depth` brackets; `fuel` bounds the length of what it holds. -/
def value? : Nat → Nat → List Char → Option (Value × List Char)
  | 0, _, _ => none
  | fuel + 1, depth, cs =>
    match cs with
    | '"' :: _ => (string? cs).map fun (text, rest) => (.string text, rest)
    | '\'' :: _ => (string? cs).map fun (text, rest) => (.string text, rest)
    | '[' :: rest =>
      if depth = 0 then none
      else (items? fuel (depth - 1) rest).map fun (items, rest) => (.array items, rest)
    | '\x7b' :: rest =>
      if depth = 0 then none
      else
        match members? fuel (depth - 1) rest with
        | some (pairs, rest) => (fill? pairs []).map fun es => (.table (membersOf es), rest)
        | none => none
    | cs => bare? cs

/-- The items of an array up to its bracket, over lines and with a spare comma at the end. -/
def items? : Nat → Nat → List Char → Option (List Value × List Char)
  | 0, _, _ => none
  | fuel + 1, depth, cs =>
    match skipGaps false cs with
    | ']' :: rest => some ([], rest)
    | cs =>
      match value? fuel depth cs with
      | none => none
      | some (v, rest) =>
        match skipGaps false rest with
        | ']' :: rest => some ([v], rest)
        | ',' :: rest => (items? fuel depth rest).map fun (vs, rest) => (v :: vs, rest)
        | _ => none

/-- The pairs of a table between braces up to the closing brace, on one line. -/
def members? : Nat → Nat → List Char → Option (List Pair × List Char)
  | 0, _, _ => none
  | fuel + 1, depth, cs =>
    match skipBlanks cs with
    | '\x7d' :: rest => some ([], rest)
    | cs => morePairs? fuel depth cs

/-- At least one pair, and those behind it. -/
def morePairs? : Nat → Nat → List Char → Option (List Pair × List Char)
  | 0, _, _ => none
  | fuel + 1, depth, cs =>
    match key? cs with
    | some ((path, name), '=' :: rest) =>
      match value? fuel depth (skipBlanks rest) with
      | none => none
      | some (v, rest) =>
        match skipBlanks rest with
        | '\x7d' :: rest => some ([⟨path, name, v⟩], rest)
        | ',' :: rest => (morePairs? fuel depth rest).map fun (ps, rest) => (⟨path, name, v⟩ :: ps, rest)
        | _ => none
    | _ => none

end

/-! ### Lines -/

inductive Line where
  /-- Nothing, or only a comment. -/
  | blank
  | pair (p : Pair)
  /-- The header of a table, or of one more of an array of tables. -/
  | header (path : List String) (isElement : Bool)
deriving Inhabited

/-- The text behind brackets that close a header. -/
def closed? (isElement : Bool) : List Char → Option (List Char)
  | ']' :: rest => if isElement then behind? ']' rest else some rest
  | _ => none

/-- A header behind its opening brackets. -/
def header? (isElement : Bool) (cs : List Char) : Option (Line × List Char) := do
  let (names, cs) ← names? deepest cs
  some (.header names isElement, ← lineEnd? (← closed? isElement cs))

def pair? (cs : List Char) : Option (Line × List Char) := do
  let ((path, name), cs) ← key? cs
  let cs ← behind? '=' cs
  let (v, cs) ← value? (cs.length + 1) deepest (skipBlanks cs)
  some (.pair ⟨path, name, v⟩, ← lineEnd? cs)

def line? (cs : List Char) : Option (Line × List Char) :=
  match skipBlanks cs with
  | '[' :: '[' :: rest => header? true rest
  | '[' :: rest => header? false rest
  | cs =>
    match lineEnd? cs with
    | some rest => some (.blank, rest)
    | none => pair? cs

/-- All lines; `fuel` bounds their number. -/
def lines? : Nat → List Char → Option (List Line)
  | _, [] => some []
  | 0, _ => none
  | fuel + 1, cs =>
    match line? cs with
    | some (line, rest) => (lines? fuel rest).map (line :: ·)
    | none => none

/-! ### Files -/

structure Section where
  path : List String
  isElement : Bool
  pairs : List Pair
deriving Inhabited

/-- The pairs before the first header, and the sections of all headers. -/
def divided : List Line → List Pair × List Section
  | [] => ([], [])
  | .blank :: rest => divided rest
  | .pair p :: rest =>
    let (pairs, sections) := divided rest
    (p :: pairs, sections)
  | .header path isElement :: rest =>
    let (pairs, sections) := divided rest
    ([], ⟨path, isElement, pairs⟩ :: sections)

def assemble? (lines : List Line) : Option Entries := do
  let (pairs, sections) := divided lines
  sections.foldlM (fun es s => es.define? s.isElement (fill? s.pairs) s.path) (← fill? pairs [])

def skipMark : List Char → List Char
  | '\uFEFF' :: rest => rest
  | cs => cs

/-- The members of the table of a file. -/
def read? (text : String) : Option (List (String × Value)) :=
  let cs := skipMark text.toList
  ((lines? cs.length cs >>= assemble?)).map membersOf

end RelayQuality.Toml
