/-
# Pixel formats

How the samples of a picture are spread over its planes: the number of planes, the
subsampling of chroma, and for each plane the least number of bytes in a row and the number
of rows.
-/

namespace SipStills

/-- The pixel formats that a decoder may deliver. -/
inductive PixelFormat where
  /-- Three planes, chroma halved both ways, limited range. -/
  | yuv420p
  /-- Three planes, chroma halved both ways, full range. -/
  | yuvj420p
  /-- Three planes, chroma halved horizontally, limited range. -/
  | yuv422p
  /-- Three planes, chroma halved horizontally, full range. -/
  | yuvj422p
  /-- A luma plane and one plane of chroma pairs, chroma halved both ways. -/
  | nv12
  /-- Red, green, blue in one plane. -/
  | rgb24
  /-- Blue, green, red in one plane. -/
  | bgr24
  /-- Luma alone. -/
  | gray8
deriving DecidableEq

namespace PixelFormat

/-- All formats. -/
def all : List PixelFormat :=
  [.yuv420p, .yuvj420p, .yuv422p, .yuvj422p, .nv12, .rgb24, .bgr24, .gray8]

/-- The format's name. -/
def name : PixelFormat → String
  | .yuv420p => "yuv420p"
  | .yuvj420p => "yuvj420p"
  | .yuv422p => "yuv422p"
  | .yuvj422p => "yuvj422p"
  | .nv12 => "nv12"
  | .rgb24 => "rgb24"
  | .bgr24 => "bgr24"
  | .gray8 => "gray8"

/-- The format of the given name. -/
def ofName? (name : String) : Option PixelFormat := all.find? fun f => f.name == name

/-- The number of planes that a picture of the format needs. -/
def planeCount : PixelFormat → Nat
  | .yuv420p | .yuvj420p | .yuv422p | .yuvj422p => 3
  | .nv12 => 2
  | .rgb24 | .bgr24 | .gray8 => 1

/-- Samples use the whole range of a byte by the format's own name. -/
def isFullRange : PixelFormat → Bool
  | .yuvj420p | .yuvj422p => true
  | _ => false

/-- The format separates luma and chroma. -/
def isYuv : PixelFormat → Bool
  | .rgb24 | .bgr24 | .gray8 => false
  | _ => true

/-- The binary logarithms of the horizontal and the vertical subsampling of chroma. -/
def chromaShift : PixelFormat → Nat × Nat
  | .yuv420p | .yuvj420p | .nv12 => (1, 1)
  | .yuv422p | .yuvj422p => (1, 0)
  | _ => (0, 0)

/-- A length divided by a power of two, rounded up. -/
def subsampled (length shift : Nat) : Nat := (length + (1 <<< shift) - 1) >>> shift

/-- The least number of bytes in a row of plane `index`, for a picture of the given width. -/
def rowLength (f : PixelFormat) (index width : Nat) : Nat :=
  match f, index with
  | .rgb24, _ | .bgr24, _ => width * 3
  | _, 0 => width
  | .nv12, _ => subsampled width f.chromaShift.1 * 2
  | _, _ => subsampled width f.chromaShift.1

/-- The number of rows of plane `index`, for a picture of the given height. -/
def rowCount (f : PixelFormat) (index height : Nat) : Nat :=
  match f, index with
  | .rgb24, _ | .bgr24, _ => height
  | _, 0 => height
  | _, _ => subsampled height f.chromaShift.2

end PixelFormat
end SipStills
