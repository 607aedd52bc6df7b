/-
# Decoders and the still encoder of a pipeline

Decoders and encoders may share devices; the devices' state has type `δ` and is passed
through every call.  A decoder hands out decode contexts of type `κ`, and a context is fed
packets of one stream.

Main definitions: `Decoder`, `PictureEncoder`, `Registry`.
-/
import SipStills.Codec
import SipStills.Still.Encoder

namespace SipStills

/-- What a decode context makes of a packet. -/
inductive Decoded where
  /-- A picture. -/
  | picture (frame : Frame)
  /-- Nothing yet. -/
  | again
  /-- The stream has ended. -/
  | eof
  /-- The packet cannot be decoded. -/
  | failed

/-- A decoder of one codec. -/
structure Decoder (δ κ : Type) where
  /-- The codec. -/
  codec : CodecId
  /-- Opens a decode context, if that is possible. -/
  openContext : δ → Option κ × δ
  /-- Feeds a packet to a context. -/
  decode : κ → Bytes → δ → Decoded × κ × δ

/-- An encoder that was opened: it makes packets of a picture, if it can. -/
abbrev OpenEncoder (δ : Type) := Frame → δ → Option (List Packet) × δ

/-- An encoder of pictures. -/
structure PictureEncoder (δ : Type) where
  /-- Its name. -/
  name : String
  /-- Opens it for pictures of one size, if that is possible. -/
  openFor : EncodeParams → δ → Option (OpenEncoder δ) × δ

/-- The still encoder as an encoder of pictures; `compress` is the compressor. -/
def StillEncoder.toPictureEncoder {δ : Type} (e : StillEncoder)
    (compress : Scan → Except String Bytes) : PictureEncoder δ where
  name := StillEncoder.name
  openFor params d :=
    match e.openFor params with
    | .error _ => (none, d)
    | .ok session => (some fun f d => ((session.encode compress f).toOption, d), d)

/-- The decoders, by codec, and the encoder. -/
structure Registry (δ κ : Type) where
  /-- The decoders, at most one for each codec. -/
  decoders : List (Decoder δ κ) := []
  /-- The encoder. -/
  encoder : Option (PictureEncoder δ) := none

namespace Registry

variable {δ κ : Type}

/-- The registry with one more decoder, in place of any other of its codec. -/
def withDecoder (r : Registry δ κ) (d : Decoder δ κ) : Registry δ κ :=
  { r with decoders := r.decoders.filter (fun x => x.codec != d.codec) ++ [d] }

/-- The decoder of a codec. -/
def decoder? (r : Registry δ κ) (codec : CodecId) : Option (Decoder δ κ) :=
  r.decoders.find? fun d => d.codec == codec

/-- The codecs that have a decoder, by number. -/
def codecs (r : Registry δ κ) : List CodecId :=
  (r.decoders.map (·.codec)).mergeSort fun a b => decide (a.number ≤ b.number)

end Registry
end SipStills
