/-
# Notifications of a foreign engine

An engine written in another language hands over plain memory: texts as an address and a
length, flags as numbers, a name in a buffer of fixed size.  This file says what such memory
means.  Bytes that are not valid text are replaced, never refused.
-/
import SipStills.Agent.World
import SipStills.Text.Utf8

namespace SipStills

/-- Memory that is lent for the time of a call: the bytes at an address, unless that is null,
and a length, which may be smaller than what is there, or negative. -/
structure ForeignBytes where
  /-- The bytes at the address; nothing if the address is null. -/
  memory : Option Bytes
  /-- The announced length. -/
  length : Int
deriving DecidableEq

namespace ForeignBytes

/-- The bytes that are meant. -/
def bytes (b : ForeignBytes) : Bytes :=
  match b.memory with
  | none => []
  | some bs => bs.take b.length.toNat

/-- The text that is meant. -/
def text (b : ForeignBytes) : String := String.ofList (Text.Utf8.lenient b.bytes)

end ForeignBytes

/-- The snapshot of an account. -/
structure ForeignInfo where
  /-- Other than zero for the default account. -/
  isDefault : Int
  /-- The account's own address. -/
  uri : ForeignBytes
  /-- Positive if a registrar is configured. -/
  hasRegistration : Int
  /-- Seconds until the registration expires. -/
  expires : UInt32
  /-- The registrar's last answer. -/
  status : Int
  /-- Its reason phrase. -/
  statusText : ForeignBytes
  /-- The error number of the last registration. -/
  lastError : Int
  /-- Other than zero if present. -/
  online : Int
  /-- The presence text. -/
  onlineText : ForeignBytes
deriving DecidableEq

/-- A status code from a number; one that is out of range becomes the nearest that is not. -/
def StatusCode.ofInt (n : Int) : StatusCode := ⟨UInt16.ofNat (min n.toNat 65535)⟩

/-- The snapshot that is meant. -/
def ForeignInfo.toInfo (i : ForeignInfo) : AccountInfo where
  isDefault := i.isDefault != 0
  uri := i.uri.text
  configured := decide (0 < i.hasRegistration)
  expires := i.expires
  status := .ofInt i.status
  statusText := i.statusText.text
  lastError := i.lastError
  online := i.online != 0
  onlineText := i.onlineText.text

/-- The size of the buffer that holds the name of a callee. -/
def calleeSize : Nat := 64

/-- A buffer with the given bytes at its start, and zeros behind them. -/
def calleeBuffer (bytes : Bytes) : Bytes :=
  bytes.take calleeSize ++ List.replicate (calleeSize - bytes.length) 0

/-- A packet of video. -/
structure ForeignEvent where
  /-- The buffer with the callee's name, which ends at the first zero. -/
  callee : Bytes
  /-- The number of the codec. -/
  codec : Int32
  /-- The place in the stream. -/
  index : Int32
  /-- The announced length. -/
  total : Int32
  /-- The number of bytes that are missing. -/
  remaining : Int32
  /-- The payload. -/
  payload : ForeignBytes
deriving DecidableEq

namespace ForeignEvent

/-- The callee that is meant. -/
def calleeId (e : ForeignEvent) : String :=
  String.ofList (Text.Utf8.lenient ((e.callee.take calleeSize).takeWhile (· != 0)))

/-- The event that is meant. -/
def toEvent (e : ForeignEvent) : DecodeEvent where
  callee := e.calleeId
  codec := ⟨e.codec⟩
  index := e.index
  total := e.total
  remaining := e.remaining
  payload := e.payload.bytes

end ForeignEvent

/-- What a foreign engine calls an agent with.  What is null is not there. -/
inductive ForeignCall where
  /-- An attempt to register an account starts; `renew` is other than zero for a renewal. -/
  | started (id : AccountId) (renew : Int)
  /-- A registrar has answered. -/
  | answered (id : AccountId) (info : Option ForeignInfo)
  /-- A packet of video has arrived. -/
  | decode (event : Option ForeignEvent)
deriving DecidableEq

/-- The notification that is meant, if any. -/
def ForeignCall.notification? : ForeignCall → Option Notification
  | .started id renew => some (.report id (.started (renew != 0)))
  | .answered id info => info.map fun i => .report id (.info i.toInfo)
  | .decode event => event.map fun e => .decode e.toEvent

/-- Takes a call of a foreign engine; `known` says whether it names the agent at all. -/
def World.foreign {δ κ γ σ : Type} (o : Observers γ σ) (limit : Nat) (t : ThreadId)
    (known : Bool) (call : ForeignCall) (w : World δ κ γ σ) : World δ κ γ σ :=
  match call.notification? with
  | some n => if known then w.notify o limit t n else w
  | none => w

end SipStills
