/-
# The rows of an accepted picture

`PixelFormat.grid` says how a plane covers a picture: in blocks of so many pixels across and down,
each block with so many bytes.  Blocks at the right and the lower edge may stick out of the picture,
so a plane has as many blocks across and down as it takes, rounded up.

`Frame.make` compares the size of each plane with one number.  Neither the end of a row nor that
number is more than stride times rows (`Plane.rowEnd_le`, `Plane.sizeFits_of_mul_lt`), so where that
product is a machine word, nothing that is computed overflows.  The number is then right: planes are
accepted exactly if each of their rows can be taken and is long enough for its blocks
(`Frame.make_eq_ok_iff_rows`).  The last row decides for all of them, and it needs no padding.
-/
import Mathlib.Algebra.Order.Floor.Div
import Mathlib.Algebra.Order.Ring.Nat
import SipStills.Proofs.Picture.Frame

namespace SipStills

/-! ### Grids -/

/-- The blocks of pixels that a plane stores together. -/
structure PlaneGrid where
  /-- Pixels of a block from left to right. -/
  across : Nat
  /-- Pixels of a block from top to bottom. -/
  down : Nat
  /-- Bytes of a block. -/
  bytes : Nat

namespace PlaneGrid

/-- The bytes of all blocks beside each other. -/
def rowLength (g : PlaneGrid) (width : Nat) : Nat := g.bytes * (width ⌈/⌉ g.across)

/-- The blocks above each other. -/
def rowCount (g : PlaneGrid) (height : Nat) : Nat := height ⌈/⌉ g.down

end PlaneGrid

namespace PixelFormat

/-- The grid of plane `index`. -/
def grid : PixelFormat → Nat → PlaneGrid
  | .rgb24, _ | .bgr24, _ => { across := 1, down := 1, bytes := 3 }
  | .gray8, _ => { across := 1, down := 1, bytes := 1 }
  | .yuv420p, 0 | .yuvj420p, 0 | .yuv422p, 0 | .yuvj422p, 0 | .nv12, 0 =>
    { across := 1, down := 1, bytes := 1 }
  | .yuv420p, _ | .yuvj420p, _ => { across := 2, down := 2, bytes := 1 }
  | .yuv422p, _ | .yuvj422p, _ => { across := 2, down := 1, bytes := 1 }
  | .nv12, _ => { across := 2, down := 2, bytes := 2 }

lemma subsampled_eq_ceilDiv (length shift : Nat) :
    subsampled length shift = length ⌈/⌉ 2 ^ shift := by
  rw [subsampled, Nat.shiftRight_eq_div_pow, Nat.one_shiftLeft, Nat.ceilDiv_eq_add_pred_div]

lemma rowLength_eq_grid (format : PixelFormat) (index width : Nat) :
    format.rowLength index width = (format.grid index).rowLength width := by
  cases format <;> cases index <;>
    simp [rowLength, grid, PlaneGrid.rowLength, subsampled_eq_ceilDiv, chromaShift, Nat.mul_comm]

lemma rowCount_eq_grid (format : PixelFormat) (index height : Nat) :
    format.rowCount index height = (format.grid index).rowCount height := by
  cases format <;> cases index <;>
    simp [rowCount, grid, PlaneGrid.rowCount, subsampled_eq_ceilDiv, chromaShift]

lemma down_pos (format : PixelFormat) (index : Nat) : 0 < (format.grid index).down := by
  cases format <;> cases index <;> simp [grid]

/-- However small the picture, each of its planes has a row. -/
lemma rowCount_pos (format : PixelFormat) (index : Nat) {height : Nat} (h : 0 < height) :
    0 < format.rowCount index height := by
  rw [rowCount_eq_grid, PlaneGrid.rowCount, Nat.pos_iff_ne_zero]
  intro hnone
  have hcover := (ceilDiv_le_iff_le_mul (format.down_pos index)).1 hnone.le
  omega

/-- However narrow the picture, each row has a byte. -/
lemma rowLength_pos (format : PixelFormat) (index : Nat) {width : Nat} (h : 0 < width) :
    0 < format.rowLength index width := by
  cases format <;> cases index <;> simp only [rowLength, subsampled, chromaShift] <;> omega

end PixelFormat

/-! ### Rows -/

namespace Plane

/-- A stride holds the blocks beside each other, and each row can be taken and holds them. -/
structure Covers (p : Plane) (g : PlaneGrid) (width height : Nat) : Prop where
  stride : g.rowLength width ≤ p.stride
  rows : ∀ y < g.rowCount height, ∃ row, p.row? y = some row ∧ g.rowLength width ≤ row.size

lemma row?_eq_some_iff {p : Plane} {y : Nat} {row : Array UInt8} :
    p.row? y = some row ↔
      y * p.stride ≤ p.data.size
        ∧ row = p.data.extract (y * p.stride) (y * p.stride + p.stride) := by
  rw [row?, Option.ite_none_right_eq_some, Option.some_inj, eq_comm (a := row)]

/-- A row can be taken and is long enough exactly if the plane goes on for so long behind its
start. -/
lemma exists_row_iff {p : Plane} {y length : Nat} (hlength : length ≤ p.stride) :
    (∃ row, p.row? y = some row ∧ length ≤ row.size) ↔ y * p.stride + length ≤ p.data.size := by
  simp only [row?_eq_some_iff, and_assoc, exists_and_left, exists_eq_left, Array.size_extract]
  omega

/-- Of several rows the last one decides. -/
lemma forall_row_iff {p : Plane} {length count : Nat} (hlength : length ≤ p.stride)
    (hcount : 0 < count) :
    (∀ y < count, ∃ row, p.row? y = some row ∧ length ≤ row.size)
      ↔ p.stride * (count - 1) + length ≤ p.data.size := by
  simp only [exists_row_iff hlength]
  constructor
  · intro h
    rw [Nat.mul_comm]
    exact h (count - 1) (by omega)
  · intro h y hy
    have hstart : y * p.stride ≤ p.stride * (count - 1) := by
      rw [Nat.mul_comm y]
      exact Nat.mul_le_mul_left _ (by omega)
    omega

/-- The size that a plane needs is the size with which it has all its rows. -/
lemma holdsRows_iff_covers {p : Plane} {format : PixelFormat} {width height index : Nat}
    (hheight : 0 < height) :
    p.HoldsRows format width height index ↔ p.Covers (format.grid index) width height := by
  have hcount := format.rowCount_pos index hheight
  constructor
  · rintro ⟨hstride, hsize⟩
    have hrows := (forall_row_iff hstride hcount).2 hsize
    rw [format.rowLength_eq_grid] at hstride hrows
    rw [format.rowCount_eq_grid] at hrows
    exact ⟨hstride, hrows⟩
  · rintro ⟨hstride, hrows⟩
    rw [← format.rowLength_eq_grid] at hstride hrows
    rw [← format.rowCount_eq_grid] at hrows
    exact ⟨hstride, (forall_row_iff hstride hcount).1 hrows⟩

/-- No row ends behind stride times rows. -/
lemma rowEnd_le {stride count y : Nat} (hy : y < count) : y * stride + stride ≤ stride * count := by
  calc y * stride + stride = stride * (y + 1) := by rw [Nat.mul_succ, Nat.mul_comm]
    _ ≤ stride * count := Nat.mul_le_mul_left _ hy

/-- A plane that is no shorter than its rows needs no more than stride times rows. -/
lemma sizeFits_of_mul_lt {p : Plane} {format : PixelFormat} {width height index : Nat}
    (hheight : 0 < height) (hstride : format.rowLength index width ≤ p.stride)
    (hword : p.stride * format.rowCount index height < wordCount) :
    p.SizeFits format width height index := by
  have hcount := format.rowCount_pos index hheight
  have hlast : (format.rowCount index height - 1) * p.stride + p.stride
      ≤ p.stride * format.rowCount index height := rowEnd_le (Nat.sub_lt hcount Nat.one_pos)
  rw [SizeFits, Nat.mul_comm]
  omega

/-- Where stride times rows is a machine word, planes pass exactly if they have all their rows. -/
lemma passes_iff_covers {p : Plane} {overflow : Overflow} {format : PixelFormat}
    {width height index : Nat} (hheight : 0 < height)
    (hword : p.stride * format.rowCount index height < wordCount) :
    p.Passes overflow format width height index ↔ p.Covers (format.grid index) width height := by
  rw [← holdsRows_iff_covers hheight]
  constructor
  · intro h
    exact (passes_iff_holdsRows (sizeFits_of_mul_lt hheight h.stride hword)).1 h
  · intro h
    exact (passes_iff_holdsRows (sizeFits_of_mul_lt hheight h.stride hword)).2 h

end Plane

/-! ### Pictures -/

namespace Frame

/-- Where stride times rows is a machine word for each plane, planes are accepted exactly if the
picture is not empty, no plane is missing, and each plane has all its rows; and whoever takes a row
computes its end in machine words. -/
theorem make_eq_ok_iff_rows {overflow : Overflow} {width height : Nat} {format : PixelFormat}
    {planes : List Plane} {f : Frame}
    (hwords : ∀ index < format.planeCount, ∀ p : Plane, planes[index]? = some p →
      p.stride * format.rowCount index height < wordCount) :
    (make width height format planes overflow = .ok f ↔
        f = { width, height, format, planes }
          ∧ 0 < width ∧ 0 < height ∧ format.planeCount ≤ planes.length
          ∧ ∀ index < format.planeCount, ∀ p, planes[index]? = some p →
            p.Covers (format.grid index) width height)
      ∧ ∀ index < format.planeCount, ∀ p : Plane, planes[index]? = some p →
          ∀ y < format.rowCount index height, y * p.stride + p.stride < wordCount := by
  have hends : ∀ index < format.planeCount, ∀ p : Plane, planes[index]? = some p →
      ∀ y < format.rowCount index height, y * p.stride + p.stride < wordCount :=
    fun index hindex p hp y hy =>
      Nat.lt_of_le_of_lt (Plane.rowEnd_le hy) (hwords index hindex p hp)
  refine ⟨?_, hends⟩
  rw [make_eq_ok_iff]
  refine and_congr_right ?_
  rintro rfl
  constructor
  · rintro ⟨hwidth, hheight, hcount, hplanes⟩
    refine ⟨hwidth, hheight, hcount, fun index hindex p hp => ?_⟩
    exact (Plane.passes_iff_covers hheight (hwords index hindex p hp)).1 (hplanes index hindex p hp)
  · rintro ⟨hwidth, hheight, hcount, hplanes⟩
    refine ⟨hwidth, hheight, hcount, fun index hindex p hp => ?_⟩
    exact (Plane.passes_iff_covers hheight (hwords index hindex p hp)).2 (hplanes index hindex p hp)

/-- The last row of a plane may lack its padding, but none of its blocks. -/
theorem make_eq_ok_iff_rows_cut :
    (∃ f, make 2 2 .gray8 [{ data := #[1, 2, 0, 3, 4], stride := 3 }] .panics = .ok f)
      ∧ ¬ ∃ f, make 2 2 .gray8 [{ data := #[1, 2, 0, 3], stride := 3 }] .wraps = .ok f := by
  have hwords (data : Array UInt8) : ∀ index < PixelFormat.gray8.planeCount, ∀ p : Plane,
      [({ data, stride := 3 } : Plane)][index]? = some p →
        p.stride * PixelFormat.gray8.rowCount index 2 < wordCount := by
    intro index hindex p hp
    obtain rfl : index = 0 := Nat.lt_one_iff.1 hindex
    obtain rfl := Option.some.inj hp
    exact (by decide : 3 * PixelFormat.gray8.rowCount 0 2 < wordCount)
  constructor
  · refine ⟨_, (make_eq_ok_iff_rows (hwords _)).1.2 ⟨rfl, by decide, by decide, by decide, ?_⟩⟩
    intro index hindex p hp
    obtain rfl : index = 0 := Nat.lt_one_iff.1 hindex
    obtain rfl := Option.some.inj hp
    exact (Plane.holdsRows_iff_covers (by decide)).1 ⟨by decide, by decide⟩
  · rintro ⟨f, hf⟩
    obtain ⟨-, -, -, -, hplanes⟩ := (make_eq_ok_iff_rows (hwords _)).1.1 hf
    obtain ⟨row, hrow, hlength⟩ := (hplanes 0 (by decide) _ rfl).rows 1 (by decide)
    obtain ⟨-, rfl⟩ := Plane.row?_eq_some_iff.1 hrow
    exact absurd hlength (by decide)

end Frame
end SipStills
