/-
# Decoded pictures

A picture owns its planes.  A row is the part of a plane between two multiples of its stride, and
the last row may lack its padding.  `Frame.make` compares the size of each plane with the size that
its rows take.  That size is computed in machine words, and what happens when it does not fit into
one depends on how the program was built (`Overflow`).

Main definitions: `Plane.row?`, `Plane.byte?`, `Frame.make`.
Main statement: `Plane.byte?_eq`, which says that `byte?` looks into `row?`.
-/
import SipStills.Picture.Format

namespace SipStills

/-- A plane of samples. -/
structure Plane where
  /-- The samples, row after row. -/
  data : Array UInt8
  /-- The distance from the start of a row to the start of the next. -/
  stride : Nat

namespace Plane

/-- Row `y` with whatever padding is there.  A row that starts beyond the data is missing;
one that starts at its end is empty.  A start that does not fit into a machine word counts as
beyond the data. -/
def row? (p : Plane) (y : Nat) : Option (Array UInt8) :=
  if y * p.stride ≤ p.data.size then some (p.data.extract (y * p.stride) (y * p.stride + p.stride))
  else none

/-- The byte at position `x` of row `y`. -/
def byte? (p : Plane) (x y : Nat) : Option UInt8 :=
  if x < p.stride then p.data[y * p.stride + x]? else none

theorem byte?_eq (p : Plane) (x y : Nat) : p.byte? x y = (p.row? y).bind (·[x]?) := by
  simp only [byte?, row?]
  split <;> rename_i hx <;> split <;> rename_i hy
  · simp only [Option.bind_some, Array.getElem?_extract]
    split
    · rfl
    · rename_i h
      rw [Array.getElem?_eq_none]
      omega
  · simp only [Option.bind_none]
    rw [Array.getElem?_eq_none]
    omega
  · simp only [Option.bind_some, Array.getElem?_extract]
    split
    · omega
    · rfl
  · rfl

end Plane

/-- Why planes do not make a picture. -/
inductive FrameFault where
  /-- A dimension is zero. -/
  | emptySize (width height : Nat)
  /-- Planes are missing. -/
  | fewPlanes (format : PixelFormat) (count : Nat)
  /-- The stride of a plane is shorter than its rows. -/
  | shortStride (index stride rowLength : Nat)
  /-- A plane ends before its last row does. -/
  | shortPlane (index size needed : Nat)
  /-- The size that a plane needs cannot be computed, and the program panics. -/
  | overflow (operation : String)
deriving DecidableEq

/-- The text of a fault. -/
def FrameFault.message : FrameFault → String
  | .emptySize width height =>
    "invalid video size " ++ toString width ++ "x" ++ toString height
  | .fewPlanes format count =>
    format.name ++ " needs " ++ toString format.planeCount ++ " planes, got " ++ toString count
  | .shortStride index stride rowLength =>
    "plane " ++ toString index ++ " stride " ++ toString stride
      ++ " shorter than row length " ++ toString rowLength
  | .shortPlane index size needed =>
    "plane " ++ toString index ++ " holds " ++ toString size ++ " bytes, needs "
      ++ toString needed
  | .overflow operation => "attempt to " ++ operation ++ " with overflow"

/-! ### Machine words -/

/-- The number of machine words. -/
def wordCount : Nat := UInt64.size

/-- What a program does when a sum or a product of machine words does not fit into one. -/
inductive Overflow where
  /-- It panics. -/
  | panics
  /-- It goes on with the remainder. -/
  | wraps
deriving DecidableEq

namespace Overflow

/-- The machine word in which the result of an operation ends up. -/
def word (overflow : Overflow) (operation : String) (n : Nat) : Except FrameFault Nat :=
  if n < wordCount then .ok n
  else
    match overflow with
    | .panics => .error (.overflow operation)
    | .wraps => .ok (n % wordCount)

/-- The size that a plane needs: whole strides for all rows but the last one, and for that one
just the bytes of the picture. -/
def neededSize (overflow : Overflow) (stride rowCount rowLength : Nat) :
    Except FrameFault Nat := do
  let before ← overflow.word "multiply" (stride * (rowCount - 1))
  overflow.word "add" (before + rowLength)

end Overflow

/-- A decoded picture. -/
structure Frame where
  /-- Its width in pixels. -/
  width : Nat
  /-- Its height in pixels. -/
  height : Nat
  /-- Its pixel format. -/
  format : PixelFormat
  /-- Its planes; those beyond the format's count are ignored. -/
  planes : List Plane
  /-- Its presentation time. -/
  pts : Option Int := none
  /-- It does not depend on other pictures. -/
  isKey : Bool := false

namespace Frame

/-- The first fault of a list of planes, the first of them being plane `index`. -/
def planeFault? (overflow : Overflow) (format : PixelFormat) (width height : Nat) :
    Nat → List Plane → Option FrameFault
  | _, [] => none
  | index, p :: ps =>
    let rowLength := format.rowLength index width
    if p.stride < rowLength then some (.shortStride index p.stride rowLength)
    else
      match overflow.neededSize p.stride (format.rowCount index height) rowLength with
      | .error fault => some fault
      | .ok needed =>
        if p.data.size < needed then some (.shortPlane index p.data.size needed)
        else planeFault? overflow format width height (index + 1) ps

/-- Makes a picture of planes that hold all its rows, as far as that can be computed.  A program
panics on overflow if it was not told otherwise when it was built. -/
def make (width height : Nat) (format : PixelFormat) (planes : List Plane)
    (overflow : Overflow := .panics) : Except FrameFault Frame :=
  if width = 0 ∨ height = 0 then .error (.emptySize width height)
  else if planes.length < format.planeCount then .error (.fewPlanes format planes.length)
  else
    match planeFault? overflow format width height 0 (planes.take format.planeCount) with
    | some fault => .error fault
    | none => .ok { width, height, format, planes }

/-- The picture with another presentation time. -/
def withPts (f : Frame) (pts : Option Int) : Frame := { f with pts }

/-- The picture with or without the mark of a key picture. -/
def withKey (f : Frame) (isKey : Bool) : Frame := { f with isKey }

/-- The byte at position `x` of row `y` of plane `index`. -/
def byte? (f : Frame) (index x y : Nat) : Option UInt8 :=
  (f.planes[index]?).bind fun p => p.byte? x y

/-- The picture's size, format, time and key mark as one line of text. -/
def render (f : Frame) : String :=
  "VideoFrame width: " ++ toString f.width ++ ", height: " ++ toString f.height
    ++ ", format: " ++ f.format.name
    ++ ", pts: " ++ (match f.pts with | none => "None" | some n => "Some(" ++ toString n ++ ")")
    ++ ", is_key: " ++ toString f.isKey

end Frame
end SipStills
