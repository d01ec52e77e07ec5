import Plotter.Connection

/-!
# Slots

The number of sessions at a time is limited by slots. Whoever accepts clients takes a slot first,
accepts a client when one is there, and hands the slot to that client's session, which gives it back
when it ends, however it ends. If the client cannot be accepted, the slot is given back at once
(`Slots.Step`).

No step makes a slot or loses one (`Slots.Step.total_eq`).
-/

namespace Plotter.Service

/-- Where the slots are. -/
structure Slots where
  /-- The slots that nobody holds. -/
  free : Nat
  /-- Whether a slot is held for the next client. -/
  held : Bool
  /-- The slots that sessions hold. -/
  live : Nat
deriving DecidableEq, Repr

namespace Slots

/-- All slots are free. -/
def start (n : Nat) : Slots := ⟨n, false, 0⟩

/-- The number of slots, wherever they are. -/
def total (s : Slots) : Nat := s.free + s.held.toNat + s.live

/-- What happens to slots. -/
inductive Step : Slots → Slots → Prop
  /-- A free slot is taken for the next client. -/
  | take (n k : Nat) : Step ⟨n + 1, false, k⟩ ⟨n, true, k⟩
  /-- A client is accepted, and its session holds the slot from now on. -/
  | accept (n k : Nat) : Step ⟨n, true, k⟩ ⟨n, false, k + 1⟩
  /-- No client could be accepted, and the slot for one is free again. -/
  | giveBack (n k : Nat) : Step ⟨n, true, k⟩ ⟨n + 1, false, k⟩
  /-- A session ends, with this result, and gives its slot back. -/
  | finish (result : Status) (n k : Nat) (b : Bool) : Step ⟨n, b, k + 1⟩ ⟨n + 1, b, k⟩

/-- The states that come after any number of steps. -/
inductive Reachable (n : Nat) : Slots → Prop
  /-- The state from which all begins. -/
  | start : Reachable n (start n)
  /-- The state after one more step. -/
  | step {s t : Slots} : Reachable n s → Step s t → Reachable n t

/-- A step keeps the number of slots. -/
theorem Step.total_eq {s t : Slots} (h : Step s t) : t.total = s.total := by
  cases h <;> simp [total] <;> omega

end Slots

end Plotter.Service
