/-!
# Transport events

Answers reach the monitor as `TransportEvent`s, tagged with the sweep whose transport heard them. A
`Mailbox` carries them until its reader goes away.
-/

namespace RelayQuality

inductive TransportNews where
  /-- The probe with this sequence number was answered. -/
  | reply (sequence : UInt16)
  /-- The transport cannot go on. -/
  | failure (text : String)
deriving DecidableEq, Repr, Inhabited

/-- News from the transport of one sweep. -/
structure TransportEvent where
  generation : Nat
  news : TransportNews
deriving DecidableEq, Repr, Inhabited

/-- Events on their way to the reader, oldest first. -/
structure Mailbox where
  events : List TransportEvent := []
  isClosed : Bool := false
deriving DecidableEq, Repr, Inhabited

namespace Mailbox

/-- The mailbox with an event put in, and whether there was a reader for it. -/
def post (m : Mailbox) (event : TransportEvent) : Bool × Mailbox :=
  if m.isClosed then (false, m) else (true, { m with events := m.events ++ [event] })

def receive (m : Mailbox) : Option TransportEvent × Mailbox :=
  match m.events with
  | [] => (none, m)
  | event :: rest => (some event, { m with events := rest })

/-- The mailbox after its reader went away, with all that it had not read. -/
def close (_ : Mailbox) : Mailbox := ⟨[], true⟩

end Mailbox

/-- How an attempt to open a connection ended. -/
inductive Handshake where
  | accepted
  | refused
  | failed
deriving DecidableEq, Repr, Inhabited

namespace Handshake

/-- A host that accepts or refuses has answered. -/
def isAnswer : Handshake → Bool
  | accepted => true
  | refused => true
  | failed => false

/-- The events of attempts, each with its sequence number, on the transport of one sweep. -/
def events (generation : Nat) (attempts : List (UInt16 × Handshake)) : List TransportEvent :=
  (attempts.filter (·.2.isAnswer)).map fun attempt => ⟨generation, .reply attempt.1⟩

end Handshake

end RelayQuality
