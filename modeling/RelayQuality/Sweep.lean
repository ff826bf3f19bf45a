import RelayQuality.Address
import RelayQuality.Globe
import RelayQuality.Time.Duration

/-!
# One sweep

A `Sweep` is the queue of probes still to be sent beside the table of probes in flight, oldest
transmission first. It sends nothing itself: `fill` and `expire` return what is to be sent. Each
record stands in one of the two lists until `takeReply` or `expire` hands it out.
-/

namespace RelayQuality

/-- One measurement, queued or in flight. -/
structure Probe where
  key : String
  country : String := ""
  city : String := ""
  target : Address
  /-- The angle from the observer, which decides the order of the queue only. -/
  distance : Distance
  /-- The number of the latest transmission. -/
  sequence : UInt16 := 0
  /-- The time of the latest transmission. -/
  sentAt : Nat := 0
  retries : Nat := 0
deriving DecidableEq, Repr, Inhabited

def shortKey (key : String) : String := String.ofList (key.toList.take 8)

/-- A transmission to be made. -/
structure Dispatch where
  target : Address
  sequence : UInt16
deriving DecidableEq, Repr, Inhabited

namespace Probe

def shortKey (p : Probe) : String := RelayQuality.shortKey p.key

/-- The transmission of a probe under its present number. -/
def dispatch (p : Probe) : Dispatch := ⟨p.target, p.sequence⟩

def launched (p : Probe) (sequence : UInt16) (now : Nat) : Probe :=
  { p with sequence, sentAt := now, retries := 0 }

def resent (p : Probe) (sequence : UInt16) (now : Nat) : Probe :=
  { p with sequence, sentAt := now, retries := p.retries + 1 }

/-- The time at which an answer is no longer waited for. -/
def deadline (p : Probe) (timeout : Nat) : Nat := Millis.add p.sentAt timeout

end Probe

/-- How a sweep paces itself. -/
structure Pace where
  /-- Milliseconds to wait for an answer. -/
  timeout : Nat
  /-- The most probes in flight. -/
  parallel : Nat
  /-- The most transmissions of a probe after the first. -/
  retries : Nat
deriving DecidableEq, Repr, Inhabited

namespace Pace

/-- The pace with a timeout in whole milliseconds and at least one probe in flight. -/
def ofLimits (timeout : Duration) (parallel retries : Nat) : Pace := ⟨timeout.millis, max parallel 1, retries⟩

end Pace

structure Progress where
  remaining : Nat
  total : Nat
deriving DecidableEq, Repr, Inhabited

namespace Progress

def complete : Progress := ⟨0, 0⟩

/-- The part that is done, one where there is nothing to do. -/
def fraction (p : Progress) : Float :=
  if p.total = 0 then 1.0 else 1.0 - Float.ofNat p.remaining / Float.ofNat p.total

end Progress

structure Sweep where
  pace : Pace
  queue : List Probe := []
  flying : List Probe := []
  /-- The number of the next transmission. -/
  nextSequence : UInt16 := 0
  /-- The number of records that were loaded. -/
  total : Nat := 0
deriving DecidableEq, Repr, Inhabited

namespace Sweep

def clear (s : Sweep) : Sweep := { pace := s.pace }

/-- A new sweep over these records, nearest first; equal distances keep their order. -/
def load (s : Sweep) (records : List Probe) : Sweep :=
  { pace := s.pace
    queue := records.mergeSort fun a b => a.distance.le b.distance
    total := records.length }

theorem load_of_ordered (s : Sweep) {records : List Probe}
    (ordered : records.Pairwise fun a b => a.distance.le b.distance) :
    s.load records = { pace := s.pace, queue := records, total := records.length } := by
  rw [load, List.mergeSort_of_pairwise ordered]

/-! ### Sending -/

/-- Probes as first transmitted, under numbers in a row. -/
def launch (sequence : UInt16) (now : Nat) (probes : List Probe) : List Probe :=
  probes.mapIdx fun i p => p.launched (sequence + UInt16.ofNat i) now

/-- The queued probes that fit into the table. -/
def boarding (s : Sweep) : List Probe := s.queue.take (s.pace.parallel - s.flying.length)

def launches (s : Sweep) (now : Nat) : List Probe := launch s.nextSequence now s.boarding

/-- Move probes from the queue into the table until it is full. -/
def filled (s : Sweep) (now : Nat) : Sweep :=
  { s with
    queue := s.queue.drop (s.pace.parallel - s.flying.length)
    flying := s.flying ++ s.launches now
    nextSequence := s.nextSequence + UInt16.ofNat s.boarding.length }

/-- Fill the table; the result begins with the transmissions to be made. -/
def fill (s : Sweep) (now : Nat) : List Dispatch × Sweep := ((s.launches now).map Probe.dispatch, s.filled now)

/-! ### Timeouts -/

/-- A walk over the table from its front. -/
structure Walk where
  /-- What of the table has not been looked at. -/
  front : List Probe
  /-- What was transmitted again in this walk, latest first; it stands behind the front. -/
  behind : List Probe := []
  /-- All transmissions of this walk, latest first. -/
  resent : List Dispatch := []
  /-- The probes given up in this walk, latest first. -/
  dropped : List Probe := []
  /-- The number of the next transmission. -/
  sequence : UInt16

namespace Walk

def table (w : Walk) : List Probe := w.front ++ w.behind.reverse

end Walk

/-- The timeouts that a probe can still have. -/
def credit (retries : Nat) (p : Probe) : Nat := retries + 1 - p.retries

/-- The timeouts that probes can still have together. -/
def credits (retries : Nat) : List Probe → Nat
  | [] => 0
  | p :: probes => credit retries p + credits retries probes

@[simp] theorem credits_nil (retries : Nat) : credits retries [] = 0 := rfl

@[simp] theorem credits_cons (retries : Nat) (p : Probe) (probes : List Probe) :
    credits retries (p :: probes) = credit retries p + credits retries probes := rfl

@[simp] theorem credits_append (retries : Nat) (a b : List Probe) :
    credits retries (a ++ b) = credits retries a + credits retries b := by
  induction a with
  | nil => simp
  | cons p a ih => simp [ih, Nat.add_assoc]

@[simp] theorem credits_reverse (retries : Nat) (probes : List Probe) :
    credits retries probes.reverse = credits retries probes := by
  induction probes with
  | nil => rfl
  | cons p probes ih => simp [ih, Nat.add_comm]

/-- Take probes from the front while they are due. Each goes to the back as a new transmission, or
out if its retries are used up. -/
def walk (pace : Pace) (now : Nat) (w : Walk) : Walk :=
  match w with
  | ⟨[], [], resent, dropped, sequence⟩ => ⟨[], [], resent, dropped, sequence⟩
  | ⟨[], last :: earlier, resent, dropped, sequence⟩ =>
    walk pace now ⟨(last :: earlier).reverse, [], resent, dropped, sequence⟩
  | ⟨p :: rest, behind, resent, dropped, sequence⟩ =>
    if now < p.deadline pace.timeout then ⟨p :: rest, behind, resent, dropped, sequence⟩
    else if p.retries < pace.retries then
      walk pace now ⟨rest, p.resent sequence now :: behind, ⟨p.target, sequence⟩ :: resent, dropped, sequence + 1⟩
    else walk pace now ⟨rest, behind, resent, p :: dropped, sequence⟩
termination_by (credits pace.retries (w.front ++ w.behind) + (w.front ++ w.behind).length,
  if w.front.isEmpty then 1 else 0)
decreasing_by
  · simp only [credits_reverse, List.nil_append, List.append_nil, List.length_reverse]
    exact Prod.Lex.right _ (by simp)
  · apply Prod.Lex.left
    simp only [credits_append, credits_cons, credit, Probe.resent, List.cons_append, List.length_append,
      List.length_cons]
    omega
  · apply Prod.Lex.left
    simp only [credits_append, credits_cons, List.cons_append, List.length_append, List.length_cons]
    omega

/-- The walk that starts with the whole table. -/
def walked (s : Sweep) (now : Nat) : Walk := walk s.pace now ⟨s.flying, [], [], [], s.nextSequence⟩

/-- What a look for timeouts found. -/
structure Expiry where
  retried : List Dispatch
  dropped : List Probe
deriving DecidableEq, Repr

/-- Send again or give up every probe whose time is up. -/
def expire (s : Sweep) (now : Nat) : Expiry × Sweep :=
  let w := s.walked now
  (⟨w.resent.reverse, w.dropped.reverse⟩, { s with flying := w.table, nextSequence := w.sequence })

def expired (s : Sweep) (now : Nat) : Sweep := (s.expire now).2

/-! ### Answers -/

/-- An answer with the probe that it belongs to. -/
structure Reply where
  probe : Probe
  /-- Milliseconds from the transmission to now. -/
  latency : Nat
deriving DecidableEq, Repr

/-- Take the first probe in flight with a number out of the table, and measure it. -/
def takeReply (s : Sweep) (sequence : UInt16) (now : Nat) : Option (Reply × Sweep) :=
  match s.flying.find? (·.sequence == sequence) with
  | none => none
  | some p => some (⟨p, now - p.sentAt⟩, { s with flying := s.flying.eraseP (·.sequence == sequence) })

/-! ### Queries -/

/-- Milliseconds until the oldest transmission times out. -/
def nextTimeout? (s : Sweep) (now : Nat) : Option Nat :=
  s.flying.head?.map fun p => p.deadline s.pace.timeout - now

def progress (s : Sweep) : Progress := ⟨s.flying.length + s.queue.length, s.total⟩

def isIdle (s : Sweep) : Bool := s.flying.isEmpty && s.queue.isEmpty

end Sweep

end RelayQuality
