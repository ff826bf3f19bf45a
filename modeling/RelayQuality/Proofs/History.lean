import Mathlib.Logic.Relation
import RelayQuality.Proofs.Table

/-!
# The history of a sweep

A `History` is a sweep with all that came out of it since it was loaded. Calls come in any order and with
any times and numbers. `Move` lists what can happen to one probe, and every call is a chain of moves.
-/

namespace RelayQuality.Sweep

/-- A call on a sweep that was loaded. -/
inductive Call where
  | fill (now : Nat)
  | expire (now : Nat)
  | takeReply (sequence : UInt16) (now : Nat)
deriving DecidableEq, Repr

structure History where
  sweep : Sweep
  /-- The transmissions, latest first. -/
  sent : List Dispatch := []
  /-- The probes that were answered, as they stood in the table, latest first. -/
  answered : List Probe := []
  /-- The probes that were given up, latest first. -/
  dropped : List Probe := []

namespace History

def call (h : History) : Call → History
  | .fill now => { h with sweep := (h.sweep.fill now).2, sent := (h.sweep.fill now).1.reverse ++ h.sent }
  | .expire now =>
    { h with
      sweep := (h.sweep.expire now).2
      sent := (h.sweep.expire now).1.retried.reverse ++ h.sent
      dropped := (h.sweep.expire now).1.dropped.reverse ++ h.dropped }
  | .takeReply sequence now =>
    match h.sweep.takeReply sequence now with
    | none => h
    | some (reply, rest) => { h with sweep := rest, answered := reply.probe :: h.answered }

def follow (h : History) (calls : List Call) : History := calls.foldl call h

/-- How many probes are through, by what the sweep shows. -/
def finished (h : History) : Nat := h.sweep.total - h.sweep.flying.length - h.sweep.queue.length

/-! ### Moves -/

/-- What can happen to one probe. -/
inductive Move : History → History → Prop where
  | board {pace queue flying next total sent answered dropped} {p : Probe} (now : Nat) :
    Move ⟨⟨pace, p :: queue, flying, next, total⟩, sent, answered, dropped⟩
      ⟨⟨pace, queue, flying ++ [p.launched next now], next + 1, total⟩, ⟨p.target, next⟩ :: sent, answered, dropped⟩
  | resend {pace queue flying next total sent answered dropped} {p : Probe} (now : Nat)
    (left : p.retries < pace.retries) :
    Move ⟨⟨pace, queue, p :: flying, next, total⟩, sent, answered, dropped⟩
      ⟨⟨pace, queue, flying ++ [p.resent next now], next + 1, total⟩, ⟨p.target, next⟩ :: sent, answered, dropped⟩
  | giveUp {pace queue flying next total sent answered dropped} {p : Probe} (spent : pace.retries ≤ p.retries) :
    Move ⟨⟨pace, queue, p :: flying, next, total⟩, sent, answered, dropped⟩
      ⟨⟨pace, queue, flying, next, total⟩, sent, answered, p :: dropped⟩
  | answer {pace queue next total sent answered dropped} (before : List Probe) {after : List Probe} {p : Probe} :
    Move ⟨⟨pace, queue, before ++ p :: after, next, total⟩, sent, answered, dropped⟩
      ⟨⟨pace, queue, before ++ after, next, total⟩, sent, p :: answered, dropped⟩

open Relation (ReflTransGen)

theorem fill_moves (h : History) (now : Nat) : ReflTransGen Move h (h.call (.fill now)) := by
  refine filled_keeps h.sweep now (I := fun queue flying sent next => ReflTransGen Move h
    { h with sweep := { h.sweep with queue, flying, nextSequence := next }, sent }) ?_ h.sent .refl
  intro p queue flying sent next reached
  exact reached.tail (.board now)

theorem expire_moves (h : History) (now : Nat) : ReflTransGen Move h (h.call (.expire now)) := by
  refine expire_keeps h.sweep now (I := fun flying resent dropped next => ReflTransGen Move h
    { h with
      sweep := { h.sweep with flying, nextSequence := next }
      sent := resent ++ h.sent
      dropped := dropped ++ h.dropped }) ?_ ?_ .refl
  · intro p rest resent dropped next _ left reached
    exact reached.tail (.resend now left)
  · intro p rest resent dropped next _ spent reached
    exact reached.tail (.giveUp spent)

theorem takeReply_moves (h : History) (k : UInt16) (now : Nat) :
    ReflTransGen Move h (h.call (.takeReply k now)) := by
  obtain ⟨⟨pace, queue, flying, next, total⟩, sent, answered, dropped⟩ := h
  simp only [call]
  split
  next => exact .refl
  next reply rest taken =>
    obtain ⟨before, p, after, table, _, _, rfl, rfl⟩ := takeReply_splits taken
    obtain rfl : flying = before ++ p :: after := table
    exact .single (.answer before)

theorem call_moves (h : History) (c : Call) : ReflTransGen Move h (h.call c) := by
  cases c with
  | fill now => exact fill_moves h now
  | expire now => exact expire_moves h now
  | takeReply k now => exact takeReply_moves h k now

/-- What every move keeps, all calls keep. -/
theorem follow_keeps {I : History → Prop} (kept : ∀ {g h}, Move g h → I g → I h) {h : History} (start : I h)
    (calls : List Call) : I (h.follow calls) := by
  induction calls generalizing h with
  | nil => exact start
  | cons c rest ih =>
    have chain : ∀ {g}, ReflTransGen Move h g → I g := by
      intro g moves
      induction moves with
      | refl => exact start
      | tail _ move before => exact kept move before
    exact ih (chain (call_moves h c))

end History

end RelayQuality.Sweep
