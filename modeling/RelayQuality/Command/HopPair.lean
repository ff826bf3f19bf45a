import RelayQuality.Text.Space

/-!
# Pairs of hops

A `HopPair` is typed as `EXIT,ENTRY`, and each hop as `COUNTRY:CITY`. The first comma and the first colon
divide; white space around a name does not count, and no name is empty.
-/

namespace RelayQuality

structure CityRef where
  country : String
  city : String
deriving DecidableEq, Repr, Inhabited

namespace CityRef

def refusal (cs : List Char) : String := "expected COUNTRY:CITY, got '" ++ String.ofList cs ++ "'"

def ofChars (cs : List Char) : Except String CityRef :=
  match splitFirst? ':' cs with
  | none => .error (refusal cs)
  | some (country, city) =>
    if (trim country).isEmpty || (trim city).isEmpty then .error (refusal cs)
    else .ok ⟨String.ofList (trim country), String.ofList (trim city)⟩

def ofText (text : String) : Except String CityRef := ofChars text.toList

def text (c : CityRef) : String := c.country ++ ":" ++ c.city

def names (c : CityRef) : String × String := (c.country, c.city)

end CityRef

structure HopPair where
  /-- Where the traffic leaves. -/
  exit : CityRef
  entry : CityRef
deriving DecidableEq, Repr, Inhabited

namespace HopPair

def refusal (cs : List Char) : String := "expected EXIT,ENTRY, got '" ++ String.ofList cs ++ "'"

def ofChars (cs : List Char) : Except String HopPair :=
  match splitFirst? ',' cs with
  | none => .error (refusal cs)
  | some (exit, entry) =>
    match CityRef.ofChars exit, CityRef.ofChars entry with
    | .ok exit, .ok entry => .ok ⟨exit, entry⟩
    | .error words, _ => .error words
    | _, .error words => .error words

def ofText (text : String) : Except String HopPair := ofChars text.toList

end HopPair

end RelayQuality
