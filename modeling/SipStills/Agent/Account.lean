/-
# Operations of an account

An account is known by its number; whoever holds the number may use it at any time.  Whether
the account is still there is looked up anew by each operation: nothing reaches the engine for
an account that the engine does not hold, or after the teardown of the agent has begun.
-/
import SipStills.Agent

namespace SipStills

/-- A call that was made from an account. -/
structure Call where
  /-- The number of the call. -/
  id : Nat
  /-- The account. -/
  account : AccountId
deriving DecidableEq

namespace Agent

variable {δ κ γ α : Type}

/-- The agent serves its accounts: it is there, and its teardown has not begun. -/
def serves (a : Agent δ κ γ) : Bool := !a.gone && !a.closing

/-- Issues an engine command for an account that the engine holds. -/
def accountCommand (operation : String) (t : ThreadId) (id : AccountId)
    (run : Engine → Except EngineStatus α × Engine) (a : Agent δ κ γ) :
    Except Fault α × Agent δ κ γ :=
  if a.serves then
    let a := a.ensureThread t
    if a.engine.holds id then a.issue operation run else (.error (.invalidAccount id), a)
  else (.error .closing, a)

/-- Whether the engine holds the account. -/
def isValid (t : ThreadId) (id : AccountId) (a : Agent δ κ γ) : Bool × Agent δ κ γ :=
  if a.serves then
    let a := a.ensureThread t
    (a.engine.holds id, a)
  else (false, a)

/-- Whether the account is the default one. -/
def isDefault (t : ThreadId) (id : AccountId) (a : Agent δ κ γ) : Bool × Agent δ κ γ :=
  if a.serves then
    let a := a.ensureThread t
    (decide (a.engine.defaultAccount = some id), a)
  else (false, a)

/-- Makes the account the default one. -/
def setDefault (t : ThreadId) (id : AccountId) (a : Agent δ κ γ) :
    Except Fault Unit × Agent δ κ γ :=
  a.accountCommand "set default account" t id (Engine.setDefault id)

/-- Asks the engine for a fresh snapshot. -/
def info (t : ThreadId) (id : AccountId) (a : Agent δ κ γ) :
    Except Fault AccountInfo × Agent δ κ γ :=
  a.accountCommand "account get info" t id (Engine.info id)

/-- Calls an address. -/
def call (t : ThreadId) (id : AccountId) (target : String) (settings : CallSettings)
    (a : Agent δ κ γ) : Except Fault Call × Agent δ κ γ :=
  let r := a.accountCommand "make play" t id (Engine.makePlay id target settings)
  (r.1.map fun n => ⟨n, id⟩, r.2)

/-- The snapshot that came with the last answer of the registrar. -/
def registration? (a : Agent δ κ γ) (id : AccountId) : Option AccountInfo :=
  if a.gone then none else (a.directory.get? id).bind (·.info)

/-- The state of the registration. -/
def regState (a : Agent δ κ γ) (id : AccountId) : RegState :=
  if a.gone then .unregistered else ((a.directory.get? id).map (·.state)).getD .unregistered

/-- The agent without a record of the account. -/
def forget (id : AccountId) (a : Agent δ κ γ) : Agent δ κ γ :=
  { a with directory := a.directory.remove id }

/-- The engine is beyond the stages in which it holds accounts, or does not hold this one. -/
def hasLost (a : Agent δ κ γ) (id : AccountId) : Bool :=
  decide (EngineState.closing.rank ≤ a.engine.state.rank) || !a.engine.holds id

/-- Deletes the account from the engine and from the directory.  There is nothing to do for
an account that is not in the directory, or after the teardown has begun. -/
def shutdown (t : ThreadId) (id : AccountId) (a : Agent δ κ γ) :
    Except Fault Unit × Agent δ κ γ :=
  if !a.serves || !a.directory.contains id then (.ok (), a)
  else
    let a := a.ensureThread t
    if a.hasLost id then (.ok (), a.forget id)
    else
      match a.issue "delete account" (Engine.deleteAccount id) with
      | (.error e, a) => (.error e, a)
      | (.ok (), a) => (.ok (), a.forget id)

end Agent
end SipStills
