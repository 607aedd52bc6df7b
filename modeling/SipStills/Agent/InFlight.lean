/-
# Notification bodies under way

The engine notifies agents from threads of its own, and the bodies of notifications nest: an
observer may cause another notification on the same thread.  Each agent counts the bodies that
are under way for it, and each thread counts those that are under way on it.

A teardown waits until no more bodies are under way for its agent than on its own thread
(`InFlight.letsThrough`).
-/
import SipStills.ThreadGate

namespace SipStills

/-- A notification body: the agent that is notified, and the thread on which it runs. -/
structure Body where
  /-- The number of the agent. -/
  agent : Nat
  /-- The thread. -/
  thread : ThreadId
deriving DecidableEq

/-- A counter changed in one place. -/
def changeAt (f : Nat → Nat) (i : Nat) (count : Nat → Nat) : Nat → Nat := fun j =>
  if j = i then f (count j) else count j

/-- The bodies that are under way, for any number of agents and threads. -/
structure InFlight where
  /-- The bodies, the latest first. -/
  bodies : List Body := []
  /-- The count of each agent. -/
  count : Nat → Nat := fun _ => 0
  /-- The count of each thread. -/
  depth : ThreadId → Nat := fun _ => 0

namespace InFlight

/-- A body begins. -/
def enter (b : Body) (s : InFlight) : InFlight where
  bodies := b :: s.bodies
  count := changeAt (· + 1) b.agent s.count
  depth := changeAt (· + 1) b.thread s.depth

/-- A body ends. -/
def leave (b : Body) (s : InFlight) : InFlight where
  bodies := s.bodies.erase b
  count := changeAt (· - 1) b.agent s.count
  depth := changeAt (· - 1) b.thread s.depth

/-- A teardown of the agent on the thread need not wait. -/
def letsThrough (s : InFlight) (agent : Nat) (t : ThreadId) : Bool :=
  decide (s.count agent ≤ s.depth t)

end InFlight
end SipStills
