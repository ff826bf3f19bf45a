import Mathlib.Data.List.Induction
import RelayQuality.Monitor.Operation

/-!
# Runs

`run_keeps` takes an invariant from one operation to a run. `run_keeps_later` does the same for an
invariant that speaks of a clock, on runs whose clock does not go back.
-/

namespace RelayQuality.Monitor

theorem run_append (m : Monitor) (before after : List (Surroundings × Operation)) :
    m.run (before ++ after) = (m.run before).run after := List.foldl_append

theorem run_cons (m : Monitor) (s : Surroundings) (op : Operation) (rest : List (Surroundings × Operation)) :
    m.run ((s, op) :: rest) = (m.step s op).run rest := rfl

theorem run_concat (m : Monitor) (before : List (Surroundings × Operation)) (s : Surroundings) (op : Operation) :
    m.run (before ++ [(s, op)]) = (m.run before).step s op := run_append m before _

theorem run_keeps {I : Monitor → Prop} {allowed : Surroundings × Operation → Prop}
    (kept : ∀ {m s op}, allowed (s, op) → I m → I (m.step s op)) {m : Monitor} (start : I m)
    {operations : List (Surroundings × Operation)} (all : ∀ entry ∈ operations, allowed entry) :
    I (m.run operations) := by
  induction operations generalizing m with
  | nil => exact start
  | cons entry rest ih =>
    obtain ⟨s, op⟩ := entry
    obtain ⟨first, others⟩ := List.forall_mem_cons.mp all
    rw [run_cons]
    exact ih (kept first start) others

/-- A clock that does not go back from one operation to the next. -/
def Forward {α : Type} [LE α] (clock : Reading → α) (operations : List (Surroundings × Operation)) : Prop :=
  operations.Pairwise fun a b => clock a.1.now ≤ clock b.1.now

theorem forward_concat {α : Type} [LE α] {clock : Reading → α} {before : List (Surroundings × Operation)}
    {s : Surroundings} {op : Operation} :
    Forward clock (before ++ [(s, op)]) ↔
      Forward clock before ∧ ∀ entry ∈ before, clock entry.1.now ≤ clock s.now := by
  simp only [Forward, List.pairwise_append, List.pairwise_singleton, List.mem_singleton, forall_eq, true_and]

/-- An invariant at a time, which time alone does not break, holds after a run from the time of its
last operation on. -/
theorem run_keeps_later {α : Type} [LE α] {clock : Reading → α} {I : α → Monitor → Prop}
    {allowed : Surroundings × Operation → Prop}
    (waits : ∀ {m a b}, a ≤ b → I a m → I b m)
    (kept : ∀ {m s op}, allowed (s, op) → I (clock s.now) m → I (clock s.now) (m.step s op))
    {m : Monitor} (start : ∀ time, I time m)
    {operations : List (Surroundings × Operation)} (forward : Forward clock operations)
    (all : ∀ entry ∈ operations, allowed entry) {time : α} (past : ∀ entry ∈ operations, clock entry.1.now ≤ time) :
    I time (m.run operations) := by
  induction operations using List.reverseRecOn generalizing time with
  | nil => exact start time
  | append_singleton before entry ih =>
    obtain ⟨s, op⟩ := entry
    obtain ⟨earlier, ordered⟩ := forward_concat.mp forward
    have found := ih earlier (fun entry member => all entry (List.mem_append_left _ member)) ordered
    have last : (s, op) ∈ before ++ [(s, op)] := by simp
    rw [run_concat]
    exact waits (past _ last) (kept (all _ last) found)

end RelayQuality.Monitor
