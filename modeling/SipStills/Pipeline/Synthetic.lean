/-
# Synthetic decoders and encoders

Decoders that make up their pictures, and encoders that do not compress, let a pipeline run
without any codec.  The devices of a synthetic registry are the decoders' own books: how often
each was opened, and what is left of the scripts that some of them follow.
-/
import SipStills.Pipeline.Registry

namespace SipStills

/-- The book of one synthetic decoder. -/
structure SyntheticDevice where
  /-- How often a context was asked for. -/
  opens : Nat := 0
  /-- Whether the next contexts can be opened; after the last they all can. -/
  openScript : List Bool := []
  /-- What the next packets decode to; after the last nothing is ready. -/
  results : List Decoded := []

/-- The books of all decoders, by their place in the registry. -/
abbrev SyntheticDevices := List SyntheticDevice

namespace SyntheticDevices

/-- The book at a place. -/
def book (d : SyntheticDevices) (i : Nat) : SyntheticDevice := d[i]?.getD {}

end SyntheticDevices

/-- A gray picture of eight by eight pixels, all of one value. -/
def grayFrame (v : UInt8) : Decoded :=
  match Frame.make 8 8 .gray8 [⟨Array.replicate 64 v, 8⟩] with
  | .ok f => .picture f
  | .error _ => .failed

/-- The packet that configures a context. -/
def configPacket : Bytes := [0x43, 0x46, 0x47]

/-- The packet that ends a stream. -/
def eofPacket : Bytes := [0x45, 0x4F, 0x46]

/-- What a context makes of a packet; a context is known by whether it is configured.  The
picture is filled with the first byte of the packet. -/
def decodeSynthetic (configured : Bool) (packet : Bytes) : Decoded × Bool :=
  match packet with
  | [] => (.again, configured)
  | b :: _ =>
    if packet = eofPacket then (.eof, configured)
    else if packet = configPacket then (.again, true)
    else if !configured then (.failed, configured)
    else if b = 0xFF then (.failed, configured)
    else (grayFrame b, configured)

/-- The kinds of synthetic decoders. -/
inductive SyntheticKind where
  /-- It makes a picture of every packet; with `needsConfig` not before it is configured. -/
  | plain (needsConfig : Bool)
  /-- It cannot be opened. -/
  | broken
  /-- It follows a script. -/
  | scripted
deriving DecidableEq

/-- Opens a context of the decoder at a place. -/
def openSynthetic (kind : SyntheticKind) (i : Nat) (d : SyntheticDevices) :
    Option Bool × SyntheticDevices :=
  match kind with
  | .plain needsConfig => (some !needsConfig, d.modify i fun b => { b with opens := b.opens + 1 })
  | .broken => (none, d)
  | .scripted =>
    let script := (d.book i).openScript
    (if script.headD true then some true else none,
      d.modify i fun b => { b with opens := b.opens + 1, openScript := script.tail })

/-- The synthetic decoder of a kind, at a place. -/
def syntheticDecoder (kind : SyntheticKind) (codec : CodecId) (i : Nat) :
    Decoder SyntheticDevices Bool where
  codec := codec
  openContext := openSynthetic kind i
  decode configured packet d :=
    match kind with
    | .scripted =>
      let results := (d.book i).results
      (results.headD .again, configured, d.modify i fun b => { b with results := results.tail })
    | _ =>
      let r := decodeSynthetic configured packet
      (r.1, r.2, d)

/-- Cuts the samples of a picture's first plane into `parts` packets. -/
def splitPicture (parts : Nat) (f : Frame) : List Packet :=
  let data := (f.planes.headD ⟨#[], 0⟩).data.toList
  let size := (data.length + max parts 1 - 1) / max parts 1
  ((chunks size data).take parts).map fun piece => { data := piece }

/-- The encoder that cuts pictures into packets. -/
def splitEncoder (parts : Nat) : PictureEncoder SyntheticDevices where
  name := "split"
  openFor params d :=
    (some fun f d =>
      (if f.width = params.width then some (splitPicture parts f) else none, d), d)

/-- The encoder that fails, either when it is opened or at each picture. -/
def failingEncoder (opens : Bool) : PictureEncoder SyntheticDevices where
  name := "fail"
  openFor _ d := (if opens then some fun _ d => (none, d) else none, d)

/-- The number of a channel order in an uncompressed still. -/
def ColorType.number : ColorType → UInt8
  | .luma => 0
  | .rgb => 1
  | .bgr => 2
  | .ycbcr => 3

/-- A scan as an uncompressed still: quality, sampling, channel order, size, pixels. -/
def Scan.uncompressed (s : Scan) : Bytes :=
  [s.quality, UInt8.ofNat (s.sampling.1 * 16 + s.sampling.2), s.color.number]
    ++ Bytes.ofWord s.width.toNat ++ Bytes.ofWord s.height.toNat ++ s.pixels

/-- The still encoder without compression. -/
def uncompressedEncoder (quality : UInt8) : PictureEncoder SyntheticDevices :=
  (StillEncoder.ofQuality quality).toPictureEncoder fun s => .ok s.uncompressed

end SipStills
