/-
# Dispatch of stills

Stills go to one consumer.  It can be set once, and not after the dispatch was activated;
what comes while there is none is dropped.  Consumers are known by names of type `γ`.

Main definitions: `Dispatch.set`, `Dispatch.activate`, `Dispatch.offer`.
-/
import SipStills.Bytes
import SipStills.Fault

namespace SipStills

/-- Where stills go, and how many went there. -/
structure Dispatch (γ : Type) where
  /-- The consumer. -/
  consumer : Option γ := none
  /-- The consumer can no longer be set. -/
  active : Bool := false
  /-- The number of stills that reached the consumer. -/
  delivered : Nat := 0
  /-- The number of stills that were dropped. -/
  discarded : Nat := 0
deriving DecidableEq

namespace Dispatch

variable {γ : Type}

/-- Sets the consumer. -/
def set (c : γ) (d : Dispatch γ) : Except Fault (Dispatch γ) :=
  if d.active then .error .pipelineActive
  else if d.consumer.isSome then .error .consumerAlreadySet
  else .ok { d with consumer := some c }

/-- Fixes the consumer. -/
def activate (d : Dispatch γ) : Dispatch γ := { d with active := true }

/-- Counts a still that reached the consumer. -/
def countDelivered (d : Dispatch γ) : Dispatch γ := { d with delivered := d.delivered + 1 }

/-- Counts a still that was dropped. -/
def countDiscarded (d : Dispatch γ) : Dispatch γ := { d with discarded := d.discarded + 1 }

end Dispatch

/-- A still on its way to a consumer. -/
structure Delivery (γ : Type) where
  /-- The consumer. -/
  consumer : γ
  /-- The session that the still comes from. -/
  callee : String
  /-- The still. -/
  data : Bytes
deriving DecidableEq

namespace Dispatch

variable {γ : Type}

/-- Offers a still: it is delivered to the consumer, or dropped if there is none. -/
def offer (callee : String) (data : Bytes) (d : Dispatch γ) :
    Option (Delivery γ) × Dispatch γ :=
  match d.consumer with
  | some consumer => (some { consumer, callee, data }, d.countDelivered)
  | none => (none, d.countDiscarded)

/-- Offers stills one after the other; the result are those that were delivered. -/
def offerAll (callee : String) : List Bytes → Dispatch γ → List (Delivery γ) × Dispatch γ
  | [], d => ([], d)
  | data :: rest, d =>
    let first := d.offer callee data
    let others := offerAll callee rest first.2
    (first.1.toList ++ others.1, others.2)

end Dispatch
end SipStills
