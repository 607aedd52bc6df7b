/-
# The still encoder

A still encoder is opened for pictures of one size and then takes pictures of that size.
What it hands to the compressor is a `Scan`; the compressor itself is a parameter.

Main definitions: `StillEncoder.openFor`, `StillSession.scan`.
-/
import SipStills.Codec.Packet
import SipStills.Still.Scan

namespace SipStills

/-- What an encoder is opened with. -/
structure EncodeParams where
  /-- The width of the pictures to come. -/
  width : Nat
  /-- Their height. -/
  height : Nat
  /-- Their pixel format. -/
  format : PixelFormat
  /-- Numerator and denominator of the unit of time. -/
  timeBase : Int × Int := (1, 1)

/-- The parameters that fit a picture; stills have no unit of time but one second. -/
def EncodeParams.ofFrame (f : Frame) : EncodeParams :=
  { width := f.width, height := f.height, format := f.format }

/-- Why no still could be made. -/
inductive StillFault where
  /-- A dimension is zero. -/
  | emptySize (width height : Nat)
  /-- A dimension has more than sixteen bits. -/
  | tooLarge (width height : Nat)
  /-- The picture has another size than the encoder was opened for. -/
  | otherSize (width height openedWidth openedHeight : Nat)
  /-- The picture lacks a byte. -/
  | missingByte
  /-- The compressor refused. -/
  | refused (reason : String)
deriving DecidableEq

/-- The text of a fault. -/
def StillFault.message : StillFault → String
  | .emptySize width height =>
    "invalid video size " ++ toString width ++ "x" ++ toString height
  | .tooLarge width height =>
    toString width ++ "x" ++ toString height ++ " exceeds the jpeg size limit"
  | .otherSize width height openedWidth openedHeight =>
    "frame " ++ toString width ++ "x" ++ toString height ++ " does not match encoder "
      ++ toString openedWidth ++ "x" ++ toString openedHeight
  | .missingByte => "frame lacks a row"
  | .refused reason => "jpeg encode: " ++ reason

/-- A maker of stills of one quality. -/
structure StillEncoder where
  /-- The quality, in `1..100`. -/
  quality : UInt8

/-- The quality where none is asked for. -/
def defaultQuality : UInt8 := 85

/-- The encoder of the quality nearest to the one asked for. -/
def StillEncoder.ofQuality (quality : UInt8) : StillEncoder := ⟨max 1 (min quality 100)⟩

/-- The encoder's name. -/
def StillEncoder.name : String := "jpeg"

/-- An encoder opened for pictures of one size. -/
structure StillSession where
  /-- What it was opened with. -/
  params : EncodeParams
  /-- The quality of its stills. -/
  quality : UInt8

/-- The largest dimension of a still. -/
def maxStillSize : Nat := 65535

/-- Opens an encoder for pictures of one size. -/
def StillEncoder.openFor (e : StillEncoder) (params : EncodeParams) :
    Except StillFault StillSession :=
  if params.width = 0 ∨ params.height = 0 then
    .error (.emptySize params.width params.height)
  else if maxStillSize < params.width ∨ maxStillSize < params.height then
    .error (.tooLarge params.width params.height)
  else .ok ⟨params, e.quality⟩

namespace StillSession

/-- What the compressor is given for a picture. -/
def scan (s : StillSession) (f : Frame) : Except StillFault Scan :=
  if f.width ≠ s.params.width ∨ f.height ≠ s.params.height then
    .error (.otherSize f.width f.height s.params.width s.params.height)
  else
    match f.scanBytes? with
    | none => .error .missingByte
    | some pixels =>
      .ok
        { quality := s.quality
          sampling := samplingFactors f.format.chromaShift
          color := f.format.colorType
          width := UInt16.ofNat f.width
          height := UInt16.ofNat f.height
          pixels }

/-- Encodes a picture with the given compressor: one packet with the picture's time. -/
def encode (s : StillSession) (compress : Scan → Except String Bytes) (f : Frame) :
    Except StillFault (List Packet) :=
  match s.scan f with
  | .error fault => .error fault
  | .ok scan =>
    match compress scan with
    | .error reason => .error (.refused reason)
    | .ok data => .ok [{ data, pts := f.pts }]

end StillSession
end SipStills
