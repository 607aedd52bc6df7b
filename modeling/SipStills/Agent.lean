/-
# The agent

An agent owns one engine, the accounts that it has created or heard of, and the pipeline that
turns decode events into stills.  Its commands reach the engine from registered threads only,
and not at all once its teardown has begun.

This file has the operations of the agent's owner; those of a single account are in
`SipStills.Agent.Account`.
-/
import SipStills.Agent.Directory
import SipStills.Pipeline
import SipStills.ThreadGate

namespace SipStills

/-- An agent: devices in state `δ`, decode contexts `κ`, consumers `γ`. -/
structure Agent (δ κ γ : Type) where
  /-- The engine. -/
  engine : Engine := {}
  /-- The threads that may use the engine. -/
  gate : ThreadGate := {}
  /-- The accounts. -/
  directory : Directory := {}
  /-- The pipeline. -/
  pipeline : Pipeline δ κ γ
  /-- Its teardown has begun. -/
  closing : Bool := false
  /-- Its owner has let go of it. -/
  gone : Bool := false
  /-- Its number among all agents. -/
  number : Nat := 0

/-- The greatest number of codecs that are asked for at once. -/
def codecCapacity : Nat := 128

namespace Agent

variable {δ κ γ α : Type}

/-- Registers a thread, if it is not registered yet. -/
def ensureThread (t : ThreadId) (a : Agent δ κ γ) : Agent δ κ γ :=
  let r := a.gate.ensure t a.engine
  { a with gate := r.1, engine := r.2 }

/-- Issues an engine command; `operation` is its name in a refusal. -/
def issue (operation : String) (run : Engine → Except EngineStatus α × Engine)
    (a : Agent δ κ γ) : Except Fault α × Agent δ κ γ :=
  let r := run a.engine
  (r.1.mapError (.engine operation), { a with engine := r.2 })

/-- Issues an engine command for the owner, unless the teardown has begun. -/
def command (operation : String) (t : ThreadId) (run : Engine → Except EngineStatus α × Engine)
    (a : Agent δ κ γ) : Except Fault α × Agent δ κ γ :=
  if a.closing then (.error .closing, a) else (a.ensureThread t).issue operation run

/-- Makes the engine. -/
def create (t : ThreadId) (a : Agent δ κ γ) : Except Fault Unit × Agent δ κ γ :=
  a.command "create" t Engine.create

/-- Initialises the engine. -/
def init (t : ThreadId) (settings : EndpointSettings) (a : Agent δ κ γ) :
    Except Fault Unit × Agent δ κ γ :=
  a.command "init" t (Engine.init settings)

/-- Makes the sound device silent. -/
def nullSound (t : ThreadId) (a : Agent δ κ γ) : Except Fault Unit × Agent δ κ γ :=
  a.command "set null sound device" t Engine.nullSound

/-- Creates a transport, with default settings if none are given. -/
def createTransport (t : ThreadId) (kind : TransportKind) (settings : Option TransportSettings)
    (a : Agent δ κ γ) : Except Fault Nat × Agent δ κ γ :=
  a.command "create transport" t (Engine.createTransport kind (settings.getD {}))

/-- The agent with its consumer fixed. -/
def activate (a : Agent δ κ γ) : Agent δ κ γ :=
  { a with pipeline := { a.pipeline with dispatch := a.pipeline.dispatch.activate } }

/-- Starts the engine; from then on the consumer is fixed. -/
def start (t : ThreadId) (a : Agent δ κ γ) : Except Fault Unit × Agent δ κ γ :=
  match a.command "start" t Engine.start with
  | (.error e, a) => (.error e, a)
  | (.ok (), a) => (.ok (), a.activate)

/-- Sets the consumer. -/
def setConsumer (consumer : γ) (a : Agent δ κ γ) : Except Fault Unit × Agent δ κ γ :=
  match a.pipeline.dispatch.set consumer with
  | .error e => (.error e, a)
  | .ok dispatch => (.ok (), { a with pipeline := { a.pipeline with dispatch } })

/-! ### Teardown -/

/-- Marks the begin of the teardown: nothing new is taken up from now on. -/
def beginDestroy (a : Agent δ κ γ) : Agent δ κ γ := { a with closing := true }

/-- Tears down the engine, and forgets sessions and accounts even if the engine refuses. -/
def finishDestroy (t : ThreadId) (a : Agent δ κ γ) : Except Fault Unit × Agent δ κ γ :=
  let r := (a.ensureThread t).issue "destroy" Engine.destroy
  (r.1, { r.2 with pipeline := r.2.pipeline.clearSessions, directory := {} })

/-- Tears the agent down; a second teardown does nothing.  Between its two halves it waits for
the notification bodies of other threads; where all bodies run on the calling thread there is
nothing to wait for. -/
def destroy (t : ThreadId) (a : Agent δ κ γ) : Except Fault Unit × Agent δ κ γ :=
  if a.closing then (.ok (), a) else a.beginDestroy.finishDestroy t

/-- The owner lets go of the agent. -/
def drop (a : Agent δ κ γ) : Agent δ κ γ := { a with gone := true }

/-! ### Accounts, codecs, sessions -/

/-- Creates an account; the answer is its number. -/
def createAccount (t : ThreadId) (settings : AccountSettings) (makeDefault : Bool)
    (a : Agent δ κ γ) : Except Fault AccountId × Agent δ κ γ :=
  if maxCredentials < settings.credentials.length then
    (.error (.tooManyCredentials maxCredentials), a)
  else
    match a.command "create account" t (Engine.addAccount settings makeDefault) with
    | (.error e, a) => (.error e, a)
    | (.ok id, a) => (.ok id, { a with directory := a.directory.insert id })

/-- The account of a number, if the agent knows it. -/
def account? (a : Agent δ κ γ) (id : AccountId) : Option AccountId :=
  if a.directory.contains id then some id else none

/-- The engine's default account, if the agent knows it. -/
def defaultAccount? (t : ThreadId) (a : Agent δ κ γ) : Option AccountId × Agent δ κ γ :=
  let a := a.ensureThread t
  (a.engine.defaultAccount.bind a.account?, a)

/-- The stage of the engine. -/
def engineState (t : ThreadId) (a : Agent δ κ γ) : EngineState × Agent δ κ γ :=
  let a := a.ensureThread t
  (a.engine.state, a)

/-- Asks the engine for its codecs; if it cannot tell there are none. -/
def queryCodecs (worker : ThreadId) (a : Agent δ κ γ) : List CodecDescriptor × Agent δ κ γ :=
  if a.closing then ([], a)
  else
    let r := (a.ensureThread worker).issue "enum codecs" (Engine.listCodecs codecCapacity)
    (r.1.toOption.getD [], r.2)

/-- Lists the codecs from a worker thread, which is forgotten at the end.  A reader may stop
after it has seen the codecs that it wants. -/
def listCodecs (worker : ThreadId) (wanted : Option Nat) (a : Agent δ κ γ) :
    List CodecDescriptor × Agent δ κ γ :=
  let r := a.queryCodecs worker
  ((match wanted with | none => r.1 | some n => r.1.take n),
    { r.2 with gate := r.2.gate.release worker })

/-- Ends the session of a callee; says whether there was one. -/
def endSession (callee : String) (a : Agent δ κ γ) : Bool × Agent δ κ γ :=
  let r := a.pipeline.endSession callee
  (r.1, { a with pipeline := r.2 })

/-! ### Reports about accounts -/

/-- The agent with a record of the account.  The engine may report on an account before the
agent has learned its number, so one that the engine holds is taken on. -/
def adopt? (id : AccountId) (a : Agent δ κ γ) : Option (Agent δ κ γ) :=
  if a.directory.contains id then some a
  else if a.engine.holds id then some { a with directory := a.directory.insert id }
  else none

/-- Enters a report into the record of its account, if the account is known. -/
def enter? (id : AccountId) (report : RegReport) (a : Agent δ κ γ) : Option (Agent δ κ γ) :=
  (a.adopt? id).map fun a =>
    { a with directory := a.directory.modify id fun r => r.apply report }

end Agent
end SipStills
