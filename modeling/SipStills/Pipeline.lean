/-
# The pipeline from decode events to stills

An event is decoded, the picture is encoded, and the stills go to the consumer.  With
`DecodeMode.perSession` every session keeps its decode context from event to event; with
`DecodeMode.perEvent` each event gets a fresh one.  Nothing that fails on the way is raised:
it is told in the outcome.

The work on an event has two halves.  `prepare` decodes and encodes; the stills that it makes
are then dispatched.  `handle` does both for a consumer that merely takes what it is given.
-/
import SipStills.Dispatch
import SipStills.Event
import SipStills.Pipeline.Registry
import SipStills.Settings.Basic

namespace SipStills

/-- What became of an event. -/
inductive Outcome where
  /-- So many stills, of so many bytes together, reached the consumer. -/
  | delivered (packets bytes : Nat)
  /-- So many stills were made and dropped for want of a consumer. -/
  | discarded (packets : Nat)
  /-- No decoder is registered for the codec. -/
  | unknownCodec
  /-- No encoder is registered. -/
  | noEncoder
  /-- The decoder or the encoder could not be opened. -/
  | openFailed
  /-- The decoder needs more packets before it has a picture. -/
  | needMoreData
  /-- The stream has ended. -/
  | endOfStream
  /-- The packet could not be decoded. -/
  | decodeFailed
  /-- The picture could not be encoded. -/
  | encodeFailed
deriving DecidableEq

/-- What decoding and encoding made of an event. -/
inductive Prepared where
  /-- There is nothing to dispatch. -/
  | settled (outcome : Outcome)
  /-- There are stills to dispatch. -/
  | stills (data : List Bytes)
deriving DecidableEq

/-- The decode context that a session keeps. -/
structure Session (κ : Type) where
  /-- The codec that it was opened for. -/
  codec : CodecId
  /-- The context. -/
  context : κ
deriving DecidableEq

/-- The sessions, by the name of their callee. -/
structure SessionTable (κ : Type) where
  /-- The sessions; no name occurs twice. -/
  entries : List (String × Session κ) := []
deriving DecidableEq

namespace SessionTable

variable {κ : Type}

/-- The session of a callee. -/
def get? (t : SessionTable κ) (callee : String) : Option (Session κ) :=
  (t.entries.find? fun x => x.1 == callee).map (·.2)

/-- The table without a callee. -/
def erase (t : SessionTable κ) (callee : String) : SessionTable κ :=
  ⟨t.entries.filter fun x => x.1 != callee⟩

/-- The table with a new session for a callee. -/
def put (t : SessionTable κ) (callee : String) (s : Session κ) : SessionTable κ :=
  ⟨(callee, s) :: (t.erase callee).entries⟩

/-- The number of sessions. -/
def size (t : SessionTable κ) : Nat := t.entries.length

end SessionTable

/-- A pipeline: devices in state `δ`, decode contexts `κ`, consumers `γ`. -/
structure Pipeline (δ κ γ : Type) where
  /-- The decoders and the encoder. -/
  registry : Registry δ κ
  /-- How long decode contexts live. -/
  mode : DecodeMode := .perSession
  /-- Where stills go. -/
  dispatch : Dispatch γ := {}
  /-- The sessions. -/
  sessions : SessionTable κ := {}
  /-- The devices. -/
  devices : δ

namespace Registry

variable {δ κ : Type}

/-- Encodes a picture. -/
def encode (r : Registry δ κ) (f : Frame) (d : δ) : Prepared × δ :=
  match r.encoder with
  | none => (.settled .noEncoder, d)
  | some encoder =>
    match encoder.openFor (.ofFrame f) d with
    | (none, d) => (.settled .openFailed, d)
    | (some run, d) =>
      match run f d with
      | (none, d) => (.settled .encodeFailed, d)
      | (some packets, d) => (.stills (packets.map (·.data)), d)

/-- Encodes what a decode context has made. -/
def encodeDecoded (r : Registry δ κ) (x : Decoded) (d : δ) : Prepared × δ :=
  match x with
  | .picture f => r.encode f d
  | .again => (.settled .needMoreData, d)
  | .eof => (.settled .endOfStream, d)
  | .failed => (.settled .decodeFailed, d)

end Registry

namespace Pipeline

variable {δ κ γ : Type}

/-- Decodes and encodes in a context of its own. -/
def prepareFresh (p : Pipeline δ κ γ) (decoder : Decoder δ κ) (payload : Bytes) :
    Prepared × Pipeline δ κ γ :=
  match decoder.openContext p.devices with
  | (none, devices) => (.settled .openFailed, { p with devices })
  | (some context, devices) =>
    let (decoded, _, devices) := decoder.decode context payload devices
    let (prepared, devices) := p.registry.encodeDecoded decoded devices
    (prepared, { p with devices })

/-- The session in which an event is decoded: the one the callee has, if its codec is the
event's, and otherwise a new one, if a context can be opened. -/
def sessionFor (p : Pipeline δ κ γ) (decoder : Decoder δ κ) (callee : String)
    (codec : CodecId) : Option (Session κ) × δ :=
  let new : Option (Session κ) × δ :=
    match decoder.openContext p.devices with
    | (none, devices) => (none, devices)
    | (some context, devices) => (some ⟨codec, context⟩, devices)
  match p.sessions.get? callee with
  | none => new
  | some session => if session.codec = codec then (some session, p.devices) else new

/-- Decodes and encodes in the session of the callee.  A stream that has ended ends the
session. -/
def prepareInSession (p : Pipeline δ κ γ) (decoder : Decoder δ κ) (e : DecodeEvent) :
    Prepared × Pipeline δ κ γ :=
  match p.sessionFor decoder e.callee e.codec with
  | (none, devices) => (.settled .openFailed, { p with devices })
  | (some session, devices) =>
    let (decoded, context, devices) := decoder.decode session.context e.payload devices
    let (prepared, devices) := p.registry.encodeDecoded decoded devices
    let sessions :=
      if prepared = .settled .endOfStream then p.sessions.erase e.callee
      else p.sessions.put e.callee ⟨session.codec, context⟩
    (prepared, { p with sessions, devices })

/-- Decodes and encodes an event. -/
def prepare (p : Pipeline δ κ γ) (e : DecodeEvent) : Prepared × Pipeline δ κ γ :=
  match p.registry.decoder? e.codec with
  | none => (.settled .unknownCodec, p)
  | some decoder =>
    match p.mode with
    | .perEvent => p.prepareFresh decoder e.payload
    | .perSession => p.prepareInSession decoder e

/-- The outcome of dispatching `made` stills of which those in the list were delivered. -/
def outcomeOf (made : Nat) (deliveries : List (Delivery γ)) : Outcome :=
  if deliveries.length = 0 ∧ 0 < made then .discarded made
  else .delivered deliveries.length (deliveries.flatMap (·.data)).length

/-- What is known about an event that was handled. -/
structure Handled (γ : Type) where
  /-- What became of it. -/
  outcome : Outcome
  /-- The stills that reached the consumer. -/
  deliveries : List (Delivery γ)

/-- Runs an event through decoding, encoding and dispatch. -/
def handle (p : Pipeline δ κ γ) (e : DecodeEvent) : Handled γ × Pipeline δ κ γ :=
  match p.prepare e with
  | (.settled outcome, p) => (⟨outcome, []⟩, p)
  | (.stills data, p) =>
    let (deliveries, dispatch) := p.dispatch.offerAll e.callee data
    (⟨outcomeOf data.length deliveries, deliveries⟩, { p with dispatch })

/-- Whether the event is noted as part of a larger packet.  An event without decoder is not
looked at. -/
def notesPartial (p : Pipeline δ κ γ) (e : DecodeEvent) : Bool :=
  (p.registry.decoder? e.codec).isSome && e.isPartial

/-- Ends the session of a callee; says whether there was one. -/
def endSession (p : Pipeline δ κ γ) (callee : String) : Bool × Pipeline δ κ γ :=
  ((p.sessions.get? callee).isSome, { p with sessions := p.sessions.erase callee })

/-- Ends all sessions. -/
def clearSessions (p : Pipeline δ κ γ) : Pipeline δ κ γ := { p with sessions := {} }

end Pipeline
end SipStills
