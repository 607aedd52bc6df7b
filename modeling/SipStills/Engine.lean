/-
# The telephony engine

The engine takes commands, checks them against its stage and what it holds, and records each
command that it receives (`Engine.receive`).  A command can be told to fail.  A command works on the
engine itself, and whether it is carried out or refused, the engine goes on as the command has left
it.

On its own side the engine answers registrations and drops accounts; `Engine.answer` and
`Engine.invalidate` are these changes.  Whom they are reported to is not decided here.
-/
import SipStills.Engine.Basic
import SipStills.Registration
import SipStills.Settings.Basic

namespace SipStills

/-- An account that the engine holds. -/
structure EngineAccount where
  /-- Its number. -/
  id : AccountId
  /-- The expiry that its registrations ask for. -/
  timeout : UInt32
  /-- What the engine says about it; whether it is the default account is known elsewhere. -/
  info : AccountInfo
deriving DecidableEq

/-- A transport that was created. -/
structure Transport where
  /-- Its number. -/
  id : Nat
  /-- Its protocol. -/
  kind : TransportKind
  /-- Its port. -/
  port : UInt16
deriving DecidableEq

/-- A call that was made. -/
structure Play where
  /-- The account it was made from. -/
  account : AccountId
  /-- The address that was called. -/
  target : String
  /-- Its media. -/
  settings : CallSettings
deriving DecidableEq

/-- What can be told to fail. -/
inductive EngineRequest where
  /-- A command. -/
  | command (command : EngineCommand)
  /-- The registration of a thread. -/
  | registerThread
deriving DecidableEq

/-- The request of the given name. -/
def EngineRequest.ofName? (name : String) : Option EngineRequest :=
  if name = "register_thread" then some .registerThread
  else (EngineCommand.ofName? name).map .command

/-- The codecs of an engine that was given none. -/
def defaultCodecs : List CodecDescriptor :=
  [⟨"H264/97", "H.264", 128⟩, ⟨"PCMU/8000/1", "", 127⟩, ⟨"PCMA/8000/1", "", 126⟩,
    ⟨"speex/8000/1", "", 125⟩]

/-- The engine. -/
structure Engine where
  /-- The stage of its life. -/
  state : EngineState := .null
  /-- The accounts it holds, in the order in which they were added. -/
  accounts : List EngineAccount := []
  /-- The default account. -/
  defaultAccount : Option AccountId := none
  /-- The number of accounts that were ever added; it is taken to be less than `2 ^ 31`. -/
  nextAccount : Nat := 0
  /-- The number of transports that were ever created; it is taken to be less than `2 ^ 31`. -/
  nextTransport : Nat := 0
  /-- The number of calls that were ever made; it is taken to be less than `2 ^ 31`. -/
  nextCall : Nat := 0
  /-- The transports. -/
  transports : List Transport := []
  /-- The codecs it offers. -/
  codecs : List CodecDescriptor := defaultCodecs
  /-- What fails, and with which status. -/
  failure? : EngineRequest → Option EngineStatus := fun _ => none
  /-- The commands received, oldest first. -/
  log : List EngineCommand := []
  /-- The calls made, oldest first. -/
  plays : List Play := []
  /-- The number of threads that were registered. -/
  threads : Nat := 0
  /-- Registrations are answered without a registrar. -/
  answersItself : Bool := false
  /-- The registrations that wait for such an answer: the account and its expiry. -/
  unanswered : List (AccountId × UInt32) := []

namespace Engine

/-! ### What the engine holds -/

/-- The account of the given number. -/
def account? (e : Engine) (id : AccountId) : Option EngineAccount :=
  e.accounts.find? fun a => a.id == id

/-- Whether the engine holds an account of the given number. -/
def holds (e : Engine) (id : AccountId) : Bool := (e.account? id).isSome

/-- What the engine says about an account. -/
def snapshot? (e : Engine) (id : AccountId) : Option AccountInfo :=
  (e.account? id).map fun a => { a.info with isDefault := decide (e.defaultAccount = some id) }

/-- The number of recorded commands of one kind. -/
def count (e : Engine) (c : EngineCommand) : Nat := e.log.count c

/-! ### Failures -/

/-- The engine, with a request failing from now on. -/
def fail (e : Engine) (r : EngineRequest) (status : EngineStatus) : Engine :=
  { e with failure? := fun q => if q = r then some status else e.failure? q }

/-- The engine, with a request no longer failing. -/
def mend (e : Engine) (r : EngineRequest) : Engine :=
  { e with failure? := fun q => if q = r then none else e.failure? q }

/-- Registers a thread. -/
def registerThread (e : Engine) : Except EngineStatus Engine :=
  match e.failure? .registerThread with
  | some status => .error status
  | none => .ok { e with threads := e.threads + 1 }

/-! ### Commands -/

/-- Receives a command: records it, and carries it out unless it is told to fail. -/
def receive {α : Type} (c : EngineCommand) (run : Engine → Except EngineStatus α × Engine)
    (e : Engine) : Except EngineStatus α × Engine :=
  let e := { e with log := e.log ++ [c] }
  match e.failure? (.command c) with
  | some status => (.error status, e)
  | none => run e

/-- Goes on only if a condition on the stage is met. -/
def atStage {α : Type} (allowed : EngineState → Bool)
    (run : Engine → Except EngineStatus α × Engine) (e : Engine) :
    Except EngineStatus α × Engine :=
  if allowed e.state then run e else (.error .invalidOperation, e)

/-- Makes the engine. -/
def create : Engine → Except EngineStatus Unit × Engine :=
  receive .create <| atStage (· = .null) fun e => (.ok (), { e with state := .created })

/-- Initialises the engine; the settings have no effect that shows. -/
def init (_settings : EndpointSettings) : Engine → Except EngineStatus Unit × Engine :=
  receive .init <| atStage (· = .created) fun e => (.ok (), { e with state := .init })

/-- Starts the engine. -/
def start : Engine → Except EngineStatus Unit × Engine :=
  receive .start <| atStage (· = .init) fun e => (.ok (), { e with state := .running })

/-- Tears the engine down.  What it holds is gone; numbers once given are not given again. -/
def destroy : Engine → Except EngineStatus Unit × Engine :=
  receive .destroy fun e =>
    if e.state = .null then (.ok (), e)
    else
      (.ok (), { e with state := .null, accounts := [], defaultAccount := none, transports := [] })

/-- Makes the sound device silent. -/
def nullSound : Engine → Except EngineStatus Unit × Engine :=
  receive .nullSound <| atStage EngineState.serves fun e => (.ok (), e)

/-- Creates a transport; the answer is its number. -/
def createTransport (kind : TransportKind) (settings : TransportSettings) :
    Engine → Except EngineStatus Nat × Engine :=
  receive .transportCreate <| atStage EngineState.serves fun e =>
    (.ok e.nextTransport,
      { e with
        nextTransport := e.nextTransport + 1
        transports := e.transports ++ [⟨e.nextTransport, kind, settings.port⟩] })

/-- Why an account is not accepted. -/
def accountFault? (s : AccountSettings) : Option EngineStatus :=
  if !isSipUri s.idUri then some .invalidUri
  else if s.registrarUri != "" && !isSipUri s.registrarUri then some .invalidUri
  else if maxCredentials < s.credentials.length then some .tooMany
  else none

/-- What the engine says about an account that was just added. -/
def newInfo (s : AccountSettings) : AccountInfo :=
  { uri := s.idUri, configured := s.registrarUri != "", onlineText := "Offline" }

/-- Adds an account; the answer is its number. -/
def addAccount (s : AccountSettings) (makeDefault : Bool) :
    Engine → Except EngineStatus AccountId × Engine :=
  receive .accountAdd <| atStage EngineState.serves fun e =>
    match accountFault? s with
    | some status => (.error status, e)
    | none =>
      let id : AccountId := e.nextAccount
      (.ok id,
        { e with
          nextAccount := e.nextAccount + 1
          accounts := e.accounts ++ [⟨id, s.timeout, newInfo s⟩]
          defaultAccount := if makeDefault then some id else e.defaultAccount
          unanswered :=
            if s.registrarUri != "" && e.answersItself then e.unanswered ++ [(id, s.timeout)]
            else e.unanswered })

/-- Goes on only if the engine holds the account. -/
def holding {α : Type} (id : AccountId) (run : Engine → Except EngineStatus α × Engine)
    (e : Engine) : Except EngineStatus α × Engine :=
  if e.holds id then run e else (.error .invalidArgument, e)

/-- The engine without an account. -/
def without (e : Engine) (id : AccountId) : Engine :=
  { e with
    accounts := e.accounts.filter fun a => a.id != id
    defaultAccount := if e.defaultAccount = some id then none else e.defaultAccount }

/-- Makes an account the default one. -/
def setDefault (id : AccountId) : Engine → Except EngineStatus Unit × Engine :=
  receive .accountSetDefault <| holding id fun e => (.ok (), { e with defaultAccount := some id })

/-- Deletes an account.  It is taken out first, and whether there was one is looked at then. -/
def deleteAccount (id : AccountId) : Engine → Except EngineStatus Unit × Engine :=
  receive .accountDelete fun e =>
    let found := e.holds id
    let e := { e with accounts := e.accounts.filter fun a => a.id != id }
    if found then
      (.ok (),
        { e with
          defaultAccount := if e.defaultAccount = some id then none else e.defaultAccount })
    else (.error .invalidArgument, e)

/-- Asks for an account's snapshot. -/
def info (id : AccountId) : Engine → Except EngineStatus AccountInfo × Engine :=
  receive .accountInfo fun e =>
    match e.snapshot? id with
    | some info => (.ok info, e)
    | none => (.error .invalidArgument, e)

/-- Lists the codecs, at most `capacity` of them. -/
def listCodecs (capacity : Nat) : Engine → Except EngineStatus (List CodecDescriptor) × Engine :=
  receive .enumerateCodecs <| atStage EngineState.serves fun e =>
    (.ok (e.codecs.take capacity), e)

/-- Calls an address from an account; the answer is the number of the call. -/
def makePlay (id : AccountId) (target : String) (settings : CallSettings) :
    Engine → Except EngineStatus Nat × Engine :=
  receive .makePlay <| atStage (· = .running) <| holding id fun e =>
    if isSipUri target then
      (.ok e.nextCall,
        { e with nextCall := e.nextCall + 1, plays := e.plays ++ [⟨id, target, settings⟩] })
    else (.error .invalidUri, e)

/-! ### The engine's own side -/

/-- The error number that the engine derives from a final refusal. -/
def sipError (status : StatusCode) : Int :=
  if status.isSuccess || status.isProvisional then 0 else 170000 + status.code.toNat

/-- An account's info after an answer of its registrar. -/
def answered (info : AccountInfo) (status : StatusCode) (expires : UInt32) : AccountInfo :=
  let info :=
    { info with status, statusText := status.reason, expires, lastError := sipError status }
  { info with
    online := info.isActive
    onlineText := if info.isActive then "Online" else "Offline" }

/-- Records the registrar's answer for an account; the result is the new snapshot, if the
engine holds the account. -/
def answer (e : Engine) (id : AccountId) (status : StatusCode) (expires : UInt32) :
    Option (AccountInfo × Engine) :=
  let e :=
    { e with
      accounts := e.accounts.map fun (a : EngineAccount) =>
        if a.id = id then { a with info := answered a.info status expires } else a }
  (e.snapshot? id).map fun info => (info, e)

/-- Drops an account without telling anyone; says whether it was there. -/
def invalidate (e : Engine) (id : AccountId) : Bool × Engine := (e.holds id, e.without id)

end Engine
end SipStills
