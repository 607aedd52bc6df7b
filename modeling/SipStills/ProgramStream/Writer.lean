/-
# The written form of a program stream

The units of a program stream as data, and the bytes that each is written as.  A stream is
a list of packs; each has a header, units that come before the video, an interleaving of
video packets and other units, and perhaps an end code.

Main definitions: `Pack.encode`, and `Pack.WellFormed`, which says when lengths fit their
fields and codes are those of their kind.
-/
import SipStills.ProgramStream.Demuxer

namespace SipStills.ProgramStream

/-- A start code. -/
def startCode (id : UInt8) : Bytes := [0, 0, 1, id]

/-- A unit without video: a system header, or a packet of another stream. -/
structure PlainUnit where
  /-- Its code. -/
  id : UInt8
  /-- What stands behind its length. -/
  content : Bytes

namespace PlainUnit

/-- The written form. -/
def encode (u : PlainUnit) : Bytes :=
  startCode u.id ++ Bytes.ofWord u.content.length ++ u.content

/-- The code is that of a unit which a demuxer passes over, and the length fits its field. -/
def WellFormed (u : PlainUnit) : Prop :=
  systemId ≤ u.id ∧ u.id ≠ mapId ∧ isVideoId u.id = false ∧ u.content.length < 65536

end PlainUnit

/-- One elementary stream in a stream map. -/
structure StreamEntry where
  /-- How it is coded. -/
  streamType : UInt8
  /-- The code of its packets. -/
  streamId : UInt8
  /-- Its descriptors. -/
  descriptors : Bytes

/-- The written form of an entry. -/
def StreamEntry.encode (e : StreamEntry) : Bytes :=
  e.streamType :: e.streamId :: Bytes.ofWord e.descriptors.length ++ e.descriptors

/-- A stream map. -/
structure StreamMap where
  /-- Two bytes of version and flags. -/
  flags : UInt8 × UInt8
  /-- The program's descriptors. -/
  info : Bytes
  /-- The elementary streams. -/
  entries : List StreamEntry
  /-- The check sum, four bytes. -/
  checksum : Bytes

namespace StreamMap

/-- The written list of streams. -/
def list (m : StreamMap) : Bytes := m.entries.flatMap StreamEntry.encode

/-- What stands behind the length of a map. -/
def content (m : StreamMap) : Bytes :=
  m.flags.1 :: m.flags.2 :: (Bytes.ofWord m.info.length ++ m.info
    ++ Bytes.ofWord m.list.length ++ m.list ++ m.checksum)

/-- The written form. -/
def encode (m : StreamMap) : Bytes :=
  startCode mapId ++ Bytes.ofWord m.content.length ++ m.content

/-- The check sum has four bytes and the length fits its field. -/
def WellFormed (m : StreamMap) : Prop := m.checksum.length = 4 ∧ m.content.length < 65536

end StreamMap

/-- A video packet. -/
structure VideoPacket where
  /-- Its code. -/
  id : UInt8
  /-- Two bytes of flags. -/
  flags : UInt8 × UInt8
  /-- Its optional fields. -/
  optional : Bytes
  /-- What it carries. -/
  payload : Bytes

namespace VideoPacket

/-- What stands behind the length of a packet. -/
def content (p : VideoPacket) : Bytes :=
  p.flags.1 :: p.flags.2 :: UInt8.ofNat p.optional.length :: (p.optional ++ p.payload)

/-- The written form. -/
def encode (p : VideoPacket) : Bytes :=
  startCode p.id ++ Bytes.ofWord p.content.length ++ p.content

/-- The code is that of video and the lengths fit their fields. -/
def WellFormed (p : VideoPacket) : Prop :=
  isVideoId p.id = true ∧ p.optional.length < 256 ∧ p.content.length < 65536

end VideoPacket

/-- What may come between a pack header and the first video packet. -/
inductive FrontUnit where
  | plain (u : PlainUnit)
  | map (m : StreamMap)

/-- What may come from the first video packet on. -/
inductive BodyUnit where
  | plain (u : PlainUnit)
  | video (p : VideoPacket)

/-- A pack. -/
structure Pack where
  /-- Nine bytes of clock and rate. -/
  clock : Bytes
  /-- The five bits in front of the stuffing's length. -/
  reserved : Nat
  /-- The stuffing, at most seven bytes. -/
  stuffing : Bytes
  /-- The units before the video. -/
  front : List FrontUnit
  /-- The video packets and the units among them. -/
  body : List BodyUnit
  /-- An end code follows. -/
  ended : Bool

namespace FrontUnit

/-- The written form. -/
def encode : FrontUnit → Bytes
  | plain u => u.encode
  | map m => m.encode

/-- The unit fits its format. -/
def WellFormed : FrontUnit → Prop
  | plain u => u.WellFormed
  | map m => m.WellFormed

/-- What the unit says about the video codec. -/
def video? : FrontUnit → Option CodecId
  | plain _ => none
  | map m =>
    (m.entries.filterMap fun e =>
      if isVideoId e.streamId then some (videoCodec e.streamType) else none).getLast?

end FrontUnit

namespace BodyUnit

/-- The written form. -/
def encode : BodyUnit → Bytes
  | plain u => u.encode
  | video p => p.encode

/-- The unit fits its format. -/
def WellFormed : BodyUnit → Prop
  | plain u => u.WellFormed
  | video p => p.WellFormed

/-- The video that the unit carries. -/
def payload : BodyUnit → Bytes
  | plain _ => []
  | video p => p.payload

end BodyUnit

namespace Pack

/-- The written header. -/
def header (p : Pack) : Bytes :=
  startCode packId ++ p.clock
    ++ UInt8.ofNat (p.reserved * 8 + p.stuffing.length) :: p.stuffing

/-- The written form. -/
def encode (p : Pack) : Bytes :=
  p.header ++ p.front.flatMap FrontUnit.encode ++ p.body.flatMap BodyUnit.encode
    ++ (if p.ended then startCode endCodeId else [])

/-- Lengths fit their fields and codes are those of their kind. -/
def WellFormed (p : Pack) : Prop :=
  p.clock.length = 9 ∧ p.stuffing.length < 8 ∧ (∀ u ∈ p.front, u.WellFormed)
    ∧ ∀ u ∈ p.body, u.WellFormed

/-- The video of a pack. -/
def video (p : Pack) : Bytes := p.body.flatMap BodyUnit.payload

/-- The codec in force after a pack's maps, given the one in force before. -/
def codecAfter (codec : CodecId) (p : Pack) : CodecId :=
  ((p.front.filterMap FrontUnit.video?).getLast?).getD codec

end Pack

/-- The written form of a stream. -/
def encodeStream (packs : List Pack) : Bytes := packs.flatMap Pack.encode

/-- The access units of a stream whose first pack finds `codec` in force and `index` units
before it: one for each pack with video, under the codec in force after its maps. -/
def accessUnits (codec : CodecId) (index : Nat) : List Pack → List AccessUnit
  | [] => []
  | p :: ps =>
    let codec := p.codecAfter codec
    if p.video = [] then accessUnits codec index ps
    else ⟨codec, UInt32.ofNat index, p.video.length, p.video⟩ :: accessUnits codec (index + 1) ps

end SipStills.ProgramStream
