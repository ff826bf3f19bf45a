/-!
# Echo messages

`Echo.request` builds the message that a probe sends, `Echo.sequenceOf?` finds the sequence number in
an answer, behind a header of the internet protocol or without one.
-/

namespace RelayQuality.Echo

/-- The length of what follows the header of a request. -/
def payloadLength : Nat := 56

def requestType : UInt8 := 8

def replyType : UInt8 := 0

/-- The two octets of a word, high octet first. -/
def octets (word : UInt16) : List UInt8 := [UInt8.ofNat (word.toNat / 256), UInt8.ofNat (word.toNat % 256)]

/-- The word of two octets, high octet first. -/
def word (high low : UInt8) : UInt16 := UInt16.ofNat (high.toNat * 256 + low.toNat)

/-- The sum of the 16-bit words of a message; an odd last octet is a high one. -/
def wordSum : List UInt8 → Nat
  | [] => 0
  | [high] => high.toNat * 256
  | high :: low :: rest => high.toNat * 256 + low.toNat + wordSum rest

/-- A sum folded into 16 bits by adding its carries, until there are none. -/
def fold (n : Nat) : Nat := if n < 65536 then n else fold (n / 65536 + n % 65536)
termination_by n
decreasing_by omega

/-- The checksum that goes with a sum: the complement of its folded form. -/
def checksum (sum : Nat) : UInt16 := UInt16.ofNat (65535 - fold sum)

/-- The pattern that fills a request. -/
def payload : List UInt8 := (List.range payloadLength).map fun i => UInt8.ofNat i

/-- What stands before the checksum. -/
def opening : List UInt8 := [requestType, 0]

/-- What stands after the checksum. -/
def closing (identifier sequence : UInt16) : List UInt8 := octets identifier ++ octets sequence ++ payload

def request (identifier sequence : UInt16) : List UInt8 :=
  opening ++ octets (checksum (wordSum (opening ++ closing identifier sequence))) ++ closing identifier sequence

def highNibble (b : UInt8) : Nat := b.toNat / 16

def lowNibble (b : UInt8) : Nat := b.toNat % 16

/-- The first octet has the version of an internet header. -/
def startsWithHeader (data : List UInt8) : Bool := data.head?.any (highNibble · == 4)

/-- What follows the internet header, whose length in words is the lower half of its first octet. -/
def afterHeader? (data : List UInt8) : Option (List UInt8) :=
  match data with
  | [] => none
  | first :: _ =>
    if data.length < 20 ∨ data.length < lowNibble first * 4 then none
    else some (data.drop (lowNibble first * 4))

/-- The message inside data. A datagram socket may leave the header out, a raw socket never does. -/
def messageOf? (data : List UInt8) (datagram : Bool) : Option (List UInt8) :=
  if datagram && !startsWithHeader data then some data else afterHeader? data

/-- The sequence number of an answer to one of our probes. Only a raw socket hears the answers to
others, so only there the identifier has to be ours. -/
def sequenceOf? (data : List UInt8) (identifier : UInt16) (datagram : Bool) : Option UInt16 :=
  match messageOf? data datagram with
  | some (kind :: _ :: _ :: _ :: idHigh :: idLow :: seqHigh :: seqLow :: _) =>
    if kind ≠ replyType then none
    else if !datagram && word idHigh idLow ≠ identifier then none
    else some (word seqHigh seqLow)
  | _ => none

end RelayQuality.Echo
