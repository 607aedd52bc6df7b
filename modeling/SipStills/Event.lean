/-
# Decode events

What the telephony engine raises when a packet of video has arrived: the session it belongs
to, its codec, its place and announced lengths, and the bytes.
-/
import SipStills.Codec
import SipStills.Bytes

namespace SipStills

/-- A packet of video, as the engine reports it. -/
structure DecodeEvent where
  /-- The session that the packet belongs to. -/
  callee : String
  /-- The packet's codec. -/
  codec : CodecId
  /-- Its place in the stream. -/
  index : Int32
  /-- Its announced length. -/
  total : Int32
  /-- The number of its bytes that are still missing. -/
  remaining : Int32
  /-- The bytes that are there. -/
  payload : Bytes
deriving DecidableEq

/-- The event says that bytes of its packet are missing. -/
def DecodeEvent.isPartial (e : DecodeEvent) : Bool :=
  decide (0 < e.remaining)
    || (decide (0 < e.total) && decide ((e.payload.length : Int) < e.total.toInt))

end SipStills
