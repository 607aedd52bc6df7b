/-
# The service

The service calls its targets, one after the other, as soon as the registration of some
account is active.  It does so once; a target that cannot be called does not keep the others
from being called.
-/
import SipStills.Agent.Reaction

namespace SipStills.Service

variable {γ σ : Type}

/-- Calls targets from an account, each for its video alone. -/
def playAll (id : AccountId) : List String → Reaction γ σ
  | [] => .done
  | target :: rest => .ask (.call id target .play) fun _ => playAll id rest

/-- What the service does when a registrar has answered.  Whether it has called its targets is
one of the notes, which `hasPlayed` reads and `markPlayed` sets. -/
def onAnswer (targets : List String) (hasPlayed : σ → Bool) (markPlayed : σ → σ)
    (id : AccountId) (info : AccountInfo) : Reaction γ σ :=
  if info.isActive then
    .look fun notes => if hasPlayed notes then .done else .note markPlayed (playAll id targets)
  else .done

end SipStills.Service
