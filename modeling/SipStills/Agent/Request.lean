/-
# Requests to an agent

Everything that the owner of an agent, or the holder of an account's number, can ask for.
`Request.Answer` is the type of the answer, and `Agent.perform` carries a request out on a
thread.  Requests do not call observers.
-/
import SipStills.Agent.Account

namespace SipStills

/-- What can be asked of an agent with consumers `γ`. -/
inductive Request (γ : Type) where
  | create
  | init (settings : EndpointSettings)
  | nullSound
  | createTransport (kind : TransportKind) (settings : Option TransportSettings)
  | start
  | destroy
  | setConsumer (consumer : γ)
  | createAccount (settings : AccountSettings) (makeDefault : Bool)
  | account (id : AccountId)
  | accounts
  | defaultAccount
  | engineState
  | listCodecs (worker : ThreadId) (wanted : Option Nat)
  | endSession (callee : String)
  | isValid (id : AccountId)
  | isDefault (id : AccountId)
  | setDefault (id : AccountId)
  | info (id : AccountId)
  | call (id : AccountId) (target : String) (settings : CallSettings)
  | registration (id : AccountId)
  | regState (id : AccountId)
  | shutdown (id : AccountId)

/-- The type of the answer to a request. -/
abbrev Request.Answer {γ : Type} : Request γ → Type
  | .create | .init _ | .nullSound | .start | .destroy | .setConsumer _ => Except Fault Unit
  | .createTransport _ _ => Except Fault Nat
  | .createAccount _ _ => Except Fault AccountId
  | .account _ | .defaultAccount => Option AccountId
  | .accounts => List AccountId
  | .engineState => EngineState
  | .listCodecs _ _ => List CodecDescriptor
  | .endSession _ | .isValid _ | .isDefault _ => Bool
  | .setDefault _ | .shutdown _ => Except Fault Unit
  | .info _ => Except Fault AccountInfo
  | .call _ _ _ => Except Fault Call
  | .registration _ => Option AccountInfo
  | .regState _ => RegState

/-- Carries out a request on a thread. -/
def Agent.perform {δ κ γ : Type} (t : ThreadId) (a : Agent δ κ γ) :
    (r : Request γ) → r.Answer × Agent δ κ γ
  | .create => a.create t
  | .init settings => a.init t settings
  | .nullSound => a.nullSound t
  | .createTransport kind settings => a.createTransport t kind settings
  | .start => a.start t
  | .destroy => a.destroy t
  | .setConsumer consumer => a.setConsumer consumer
  | .createAccount settings makeDefault => a.createAccount t settings makeDefault
  | .account id => (a.account? id, a)
  | .accounts => (a.directory.ids, a)
  | .defaultAccount => a.defaultAccount? t
  | .engineState => a.engineState t
  | .listCodecs worker wanted => a.listCodecs worker wanted
  | .endSession callee => a.endSession callee
  | .isValid id => a.isValid t id
  | .isDefault id => a.isDefault t id
  | .setDefault id => a.setDefault t id
  | .info id => a.info t id
  | .call id target settings => a.call t id target settings
  | .registration id => (a.registration? id, a)
  | .regState id => (a.regState id, a)
  | .shutdown id => a.shutdown t id

end SipStills
