import RelayQuality.Number.Decimal

/-!
# Values of data files

`Json.Value` is what a text in JavaScript object notation stands for. Numbers keep their notation. A
string that names half of a surrogate pair has no text, which matters only to a reader who wants it.
-/

namespace RelayQuality.Json

inductive Value where
  | null
  | boolean (b : Bool)
  | number (n : Decimal)
  | string (text : Option String)
  | array (items : List Value)
  | object (members : List (Option String × Value))
deriving Inhabited

namespace Value

def text? : Value → Option String
  | string text => text
  | _ => none

def float? : Value → Option Float
  | number n => n.scaled?
  | _ => none

def count? : Value → Option Nat
  | number n => n.count?
  | _ => none

def items? : Value → Option (List Value)
  | array items => some items
  | _ => none

/-- The values of a member, as often as the object has it. -/
def membersNamed (members : List (Option String × Value)) (name : String) : List Value :=
  (members.filter (·.1 == some name)).map Prod.snd

/-- The member of a name, if it is there; none where the object has it twice. -/
def member? (members : List (Option String × Value)) (name : String) : Option (Option Value) :=
  match membersNamed members name with
  | [] => some none
  | [v] => some (some v)
  | _ => none

/-- The values of named fields. An object has each at most once, in any order and among others, and
texts for all its names. An array has them in order and nothing else, and may end early. -/
def fields? (names : List String) : Value → Option (List (Option Value))
  | object members => if members.any (·.1.isNone) then none else names.mapM (member? members)
  | array items =>
    if names.length < items.length then none
    else some (items.map some ++ List.replicate (names.length - items.length) none)
  | _ => none

end Value

end RelayQuality.Json
