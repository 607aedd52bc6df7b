/-
# From a picture to the input of a still compressor

A still compressor takes one contiguous buffer: for each pixel, in rows, the samples of all
its channels.  `Frame.scanBytes?` packs a picture that way; limited-range luma and chroma are
spread to the full range on the way.

Main definitions: `Frame.pixel?` (the channels of one pixel) and `Frame.scanBytes?` (the whole
buffer, `none` if a byte of the picture is missing).
-/
import SipStills.Bytes
import SipStills.Picture.Frame

namespace SipStills

/-- The channels of a packed pixel. -/
inductive ColorType where
  | luma
  | rgb
  | bgr
  | ycbcr
deriving DecidableEq

namespace ColorType

/-- The number of channels. -/
def channels : ColorType → Nat
  | .luma => 1
  | .rgb | .bgr | .ycbcr => 3

/-- The name of the channel order. -/
def name : ColorType → String
  | .luma => "luma"
  | .rgb => "rgb"
  | .bgr => "bgr"
  | .ycbcr => "ycbcr"

end ColorType

/-- The channels into which pictures of a format are packed. -/
def PixelFormat.colorType : PixelFormat → ColorType
  | .rgb24 => .rgb
  | .bgr24 => .bgr
  | .gray8 => .luma
  | _ => .ycbcr

/-- An integer limited to the range of a byte. -/
def clampByte (n : Int) : UInt8 := UInt8.ofNat (min (max n 0) 255).toNat

/-- Luma between 16 and 235 spread over the whole range of a byte; division drops the
fraction. -/
def spreadLuma (v : UInt8) : UInt8 := clampByte (Int.tdiv (((v.toNat : Int) - 16) * 255) 219)

/-- Chroma between 16 and 240 spread over the whole range of a byte; division drops the
fraction. -/
def spreadChroma (v : UInt8) : UInt8 :=
  clampByte (Int.tdiv (((v.toNat : Int) - 128) * 255) 224 + 128)

/-- The channels of a pixel given as luma and chroma in the range of the format. -/
def PixelFormat.toFullRange (f : PixelFormat) (luma blue red : UInt8) : Bytes :=
  if f.isFullRange then [luma, blue, red]
  else [spreadLuma luma, spreadChroma blue, spreadChroma red]

namespace Frame

/-- The channels of the pixel in column `x` of row `y`. -/
def pixel? (f : Frame) (x y : Nat) : Option Bytes :=
  let cx := x >>> f.format.chromaShift.1
  let cy := y >>> f.format.chromaShift.2
  match f.format with
  | .rgb24 | .bgr24 => do
    let a ← f.byte? 0 (3 * x) y
    let b ← f.byte? 0 (3 * x + 1) y
    let c ← f.byte? 0 (3 * x + 2) y
    return [a, b, c]
  | .gray8 => do
    let a ← f.byte? 0 x y
    return [a]
  | .nv12 => do
    let luma ← f.byte? 0 x y
    let blue ← f.byte? 1 (2 * cx) cy
    let red ← f.byte? 1 (2 * cx + 1) cy
    return f.format.toFullRange luma blue red
  | _ => do
    let luma ← f.byte? 0 x y
    let blue ← f.byte? 1 cx cy
    let red ← f.byte? 2 cx cy
    return f.format.toFullRange luma blue red

/-- The packed pixels of row `y`. -/
def scanRow? (f : Frame) (y : Nat) : Option Bytes :=
  ((List.range f.width).mapM fun x => f.pixel? x y).map List.flatten

/-- The packed pixels of the whole picture, row after row. -/
def scanBytes? (f : Frame) : Option Bytes :=
  ((List.range f.height).mapM fun y => f.scanRow? y).map List.flatten

end Frame

/-- How many luma samples share one chroma sample, across and down, for a format's subsampling.
A compressor is asked for the two kinds of halving that formats have, and for none otherwise. -/
def samplingFactors : Nat × Nat → Nat × Nat
  | (1, 1) => (2, 2)
  | (1, 0) => (2, 1)
  | _ => (1, 1)

/-- What a still compressor is given. -/
structure Scan where
  /-- The quality, in `1..100`. -/
  quality : UInt8
  /-- How many luma samples share one chroma sample, across and down. -/
  sampling : Nat × Nat
  /-- The channels of a pixel. -/
  color : ColorType
  /-- The width in pixels. -/
  width : UInt16
  /-- The height in pixels. -/
  height : UInt16
  /-- The packed pixels. -/
  pixels : Bytes
deriving DecidableEq

/-- The sampling factors of the components that a baseline file announces: luma as the scan
says, chroma once each; a file of luma alone has no chroma. -/
def Scan.components (s : Scan) : List (Nat × Nat) :=
  match s.color with
  | .luma => [s.sampling]
  | _ => [s.sampling, (1, 1), (1, 1)]

end SipStills
