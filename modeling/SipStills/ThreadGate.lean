/-
# The thread gate

Before a thread may run the engine's code it has to be registered with the engine.  The gate
remembers which threads are, so that each is registered once; a registration that the engine
refuses is tried again at the next occasion.

Main definitions: `ThreadGate.ensure`, `ThreadGate.release`.
-/
import SipStills.Engine

namespace SipStills

/-- The number of a thread. -/
abbrev ThreadId := Nat

/-- The threads that are registered. -/
structure ThreadGate where
  /-- The threads, none of them twice. -/
  registered : List ThreadId := []
deriving DecidableEq

namespace ThreadGate

/-- Whether a thread is registered. -/
def isRegistered (g : ThreadGate) (t : ThreadId) : Bool := g.registered.contains t

/-- The number of threads that are registered. -/
def size (g : ThreadGate) : Nat := g.registered.length

/-- Registers a thread with the engine unless it is registered already. -/
def ensure (g : ThreadGate) (t : ThreadId) (e : Engine) : ThreadGate × Engine :=
  if g.isRegistered t then (g, e)
  else
    match e.registerThread with
    | .error _ => (g, e)
    | .ok e => (⟨t :: g.registered⟩, e)

/-- Forgets a thread. -/
def release (g : ThreadGate) (t : ThreadId) : ThreadGate := ⟨g.registered.filter (· != t)⟩

end ThreadGate
end SipStills
