/-
# Codec identifiers

Video codecs are known by the number that the telephony engine reports for them.
-/

namespace SipStills

/-- The number of a video codec, as the engine reports it. -/
structure CodecId where
  /-- The number itself. -/
  number : Int32
deriving DecidableEq

namespace CodecId

/-- No codec is known. -/
def none : CodecId := ⟨0⟩

/-- Motion JPEG. -/
def mjpeg : CodecId := ⟨7⟩

/-- MPEG-4 part 2. -/
def mpeg4 : CodecId := ⟨12⟩

/-- H.264. -/
def h264 : CodecId := ⟨27⟩

/-- The codec's short name; all numbers without a name of their own share one. -/
def name (id : CodecId) : String :=
  if id = none then "none"
  else if id = mjpeg then "mjpeg"
  else if id = mpeg4 then "mpeg4"
  else if id = h264 then "h264"
  else "unknown"

/-- Name and number, as in `h264(27)`. -/
def render (id : CodecId) : String := id.name ++ "(" ++ toString id.number.toInt ++ ")"

/-- The codecs for which a pipeline looks for a decoder. -/
def supported : List CodecId := [h264, mpeg4]

/-- Whether a decoder for the codec is built in.  None is: decoders are registered by the
owner of a pipeline. -/
def isBuiltIn (_ : CodecId) : Bool := false

end CodecId
end SipStills
