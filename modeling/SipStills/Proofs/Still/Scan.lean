/-
# A packed picture, pixel by pixel

`PixelFormat.sources` says where the bytes of a pixel are: in which plane, column and row.
`PixelFormat.Packs` says what becomes of them: luma and chroma of limited range are spread to the
full range, and everything else is taken as it is.  Neither speaks of the way in which a picture is
packed.

`scanBytes?_exact`: each pixel of a packed picture is packed from its sources.  So the result
depends on the rows of the format's planes and on nothing else that the planes may hold.  A picture
that was accepted lacks a byte exactly if the size of a plane had to be wrapped around
(`Passes.exists_scanBytes_iff`), which a program that panics on overflow does not do.
-/
import Mathlib.Data.List.Basic
import SipStills.Proofs.Picture.Rows
import SipStills.Still.Scan

namespace SipStills

/-! ### Pieces of one length -/

section Pieces

variable {α β : Type} {n : Nat}

lemma length_flatten_of_forall {pieces : List (List α)} (h : ∀ piece ∈ pieces, piece.length = n) :
    pieces.flatten.length = pieces.length * n := by
  induction pieces with
  | nil => simp
  | cons piece pieces ih =>
    rw [List.flatten_cons, List.length_append, h piece (by simp),
      ih fun piece' h' => h piece' (by simp [h']), List.length_cons, Nat.succ_mul, Nat.add_comm]

/-- In a list made of pieces of one length, piece `i` begins `i` lengths behind the start. -/
lemma take_drop_flatten {pieces : List (List α)} (h : ∀ piece ∈ pieces, piece.length = n) {i : Nat}
    {piece : List α} (hi : pieces[i]? = some piece) :
    (pieces.flatten.drop (i * n)).take n = piece := by
  induction pieces generalizing i with
  | nil => simp at hi
  | cons first pieces ih =>
    have hfirst : first.length = n := h first (by simp)
    cases i with
    | zero =>
      obtain rfl : first = piece := by simpa using hi
      simp [hfirst]
    | succ i =>
      have hrest := ih (fun piece' h' => h piece' (by simp [h'])) (by simpa using hi)
      rw [List.flatten_cons, Nat.succ_mul, Nat.add_comm (i * n), ← List.drop_drop, ← hfirst,
        List.drop_left, hfirst]
      exact hrest

/-- A piece of a piece is a piece of the whole. -/
lemma take_drop_take_drop (as : List α) {i j m : Nat} (h : j + n ≤ m) :
    (((as.drop i).take m).drop j).take n = (as.drop (i + j)).take n := by
  rw [List.drop_take, List.take_take, List.drop_drop, Nat.min_eq_left (by omega)]

lemma mapM_eq_some_iff {f : α → Option β} {as : List α} {bs : List β} :
    as.mapM f = some bs ↔ as.map f = bs.map some := by
  induction as generalizing bs with
  | nil => cases bs <;> simp
  | cons a as ih =>
    simp only [List.mapM_cons, Option.bind_eq_bind, Option.bind_eq_some_iff, ih, Option.pure_def,
      Option.some_inj, List.map_cons]
    cases bs with
    | nil => simp
    | cons b bs => simp

lemma mapM_congr {f g : α → Option β} {as : List α} (h : ∀ a ∈ as, f a = g a) :
    as.mapM f = as.mapM g := by
  refine Option.ext fun bs => ?_
  rw [mapM_eq_some_iff, mapM_eq_some_iff, List.map_congr_left h]

lemma mapM_eq_some_map {f : α → Option β} {g : α → β} {as : List α}
    (h : ∀ a ∈ as, f a = some (g a)) : as.mapM f = some (as.map g) := by
  rw [mapM_eq_some_iff, List.map_map]
  exact List.map_congr_left h

lemma exists_of_mapM_eq_some {f : α → Option β} {as : List α} {bs : List β}
    (h : as.mapM f = some bs) {a : α} (ha : a ∈ as) : ∃ b, f a = some b := by
  have hmem : f a ∈ bs.map some := mapM_eq_some_iff.1 h ▸ List.mem_map_of_mem ha
  obtain ⟨b, -, hb⟩ := List.mem_map.1 hmem
  exact ⟨b, hb.symm⟩

end Pieces

/-! ### Where the bytes of a pixel are, and what becomes of them -/

/-- The byte is the integer limited to the range of a byte. -/
def IsClamped (n : Int) (v : UInt8) : Prop := (v.toNat : Int) = max 0 (min n 255)

lemma isClamped_clampByte (n : Int) : IsClamped n (clampByte n) := by
  simp only [IsClamped, clampByte, UInt8.toNat_ofNat']
  omega

/-- Limited-range luma spread to the full range; the division drops the fraction. -/
def IsFullLuma (sample v : UInt8) : Prop :=
  IsClamped ((((sample.toNat : Int) - 16) * 255).tdiv 219) v

/-- Limited-range chroma spread to the full range; the division drops the fraction. -/
def IsFullChroma (sample v : UInt8) : Prop :=
  IsClamped ((((sample.toNat : Int) - 128) * 255).tdiv 224 + 128) v

namespace PixelFormat

/-- Plane, column and row of the bytes of the pixel in column `x` of row `y`. -/
def sources (f : PixelFormat) (x y : Nat) : List (Nat × Nat × Nat) :=
  match f with
  | .rgb24 | .bgr24 => [(0, 3 * x, y), (0, 3 * x + 1, y), (0, 3 * x + 2, y)]
  | .gray8 => [(0, x, y)]
  | .nv12 => [(0, x, y), (1, 2 * (x >>> 1), y >>> 1), (1, 2 * (x >>> 1) + 1, y >>> 1)]
  | .yuv420p | .yuvj420p => [(0, x, y), (1, x >>> 1, y >>> 1), (2, x >>> 1, y >>> 1)]
  | .yuv422p | .yuvj422p => [(0, x, y), (1, x >>> 1, y), (2, x >>> 1, y)]

/-- What the bytes of a pixel become when it is packed. -/
def Packs (f : PixelFormat) (samples channels : Bytes) : Prop :=
  match f with
  | .rgb24 | .bgr24 | .gray8 | .yuvj420p | .yuvj422p => channels = samples
  | .nv12 | .yuv420p | .yuv422p =>
    ∃ luma blue red luma' blue' red',
      samples = [luma, blue, red] ∧ channels = [luma', blue', red']
        ∧ IsFullLuma luma luma' ∧ IsFullChroma blue blue' ∧ IsFullChroma red red'

lemma lt_subsampled {x length : Nat} (h : x < length) (shift : Nat) :
    x >>> shift < subsampled length shift := by
  rw [subsampled, Nat.shiftLeft_eq, Nat.one_mul, Nat.shiftRight_eq_div_pow,
    Nat.shiftRight_eq_div_pow]
  have hpos : 0 < 2 ^ shift := Nat.two_pow_pos shift
  calc x / 2 ^ shift < x / 2 ^ shift + 1 := Nat.lt_succ_self _
    _ = (x + 2 ^ shift) / 2 ^ shift := (Nat.add_div_right x hpos).symm
    _ ≤ (length + 2 ^ shift - 1) / 2 ^ shift := Nat.div_le_div_right (by omega)

/-- The bytes of a pixel are in rows that the planes must hold. -/
lemma mem_sources {f : PixelFormat} {width height x y : Nat} (hx : x < width) (hy : y < height)
    {s : Nat × Nat × Nat} (hs : s ∈ f.sources x y) :
    s.1 < f.planeCount ∧ s.2.1 < f.rowLength s.1 width ∧ s.2.2 < f.rowCount s.1 height := by
  have hcx := lt_subsampled hx 1
  have hcy := lt_subsampled hy 1
  cases f with
  | rgb24 | bgr24 =>
    simp only [sources, List.mem_cons, List.not_mem_nil, or_false] at hs
    rcases hs with rfl | rfl | rfl <;>
      exact ⟨by simp [planeCount], by simp only [rowLength]; omega, hy⟩
  | gray8 =>
    obtain rfl := List.mem_singleton.1 hs
    exact ⟨by simp [planeCount], hx, hy⟩
  | nv12 =>
    simp only [sources, List.mem_cons, List.not_mem_nil, or_false] at hs
    rcases hs with rfl | rfl | rfl
    · exact ⟨by simp [planeCount], hx, hy⟩
    · exact ⟨by simp [planeCount], by simp only [rowLength, chromaShift]; omega, hcy⟩
    · exact ⟨by simp [planeCount], by simp only [rowLength, chromaShift]; omega, hcy⟩
  | yuv420p | yuvj420p =>
    simp only [sources, List.mem_cons, List.not_mem_nil, or_false] at hs
    rcases hs with rfl | rfl | rfl
    · exact ⟨by simp [planeCount], hx, hy⟩
    · exact ⟨by simp [planeCount], hcx, hcy⟩
    · exact ⟨by simp [planeCount], hcx, hcy⟩
  | yuv422p | yuvj422p =>
    have hcy' := lt_subsampled hy 0
    simp only [sources, List.mem_cons, List.not_mem_nil, or_false] at hs
    rcases hs with rfl | rfl | rfl
    · exact ⟨by simp [planeCount], hx, hy⟩
    · exact ⟨by simp [planeCount], hcx, hcy'⟩
    · exact ⟨by simp [planeCount], hcx, hcy'⟩

/-- Each byte of the rows that the planes must hold belongs to a pixel. -/
lemma exists_source {f : PixelFormat} {width height index x y : Nat} (hindex : index < f.planeCount)
    (hx : x < f.rowLength index width) (hy : y < f.rowCount index height) :
    ∃ x' < width, ∃ y' < height, (index, x, y) ∈ f.sources x' y' := by
  have hdouble : ∀ n, (2 * n) >>> 1 = n := fun n => by omega
  cases f with
  | rgb24 | bgr24 =>
    obtain rfl : index = 0 := Nat.lt_one_iff.1 hindex
    simp only [rowLength, rowCount] at hx hy
    have hthird : x = 3 * (x / 3) ∨ x = 3 * (x / 3) + 1 ∨ x = 3 * (x / 3) + 2 := by omega
    exact ⟨x / 3, by omega, y, hy, by simpa [sources] using hthird⟩
  | gray8 =>
    obtain rfl : index = 0 := Nat.lt_one_iff.1 hindex
    exact ⟨x, hx, y, hy, List.mem_singleton.2 rfl⟩
  | nv12 =>
    obtain rfl | rfl : index = 0 ∨ index = 1 := by
      rw [planeCount] at hindex
      omega
    · exact ⟨x, hx, y, hy, List.mem_cons_self⟩
    · simp only [rowLength, rowCount, subsampled, chromaShift] at hx hy
      have hhalf : x = 2 * (x / 2) ∨ x = 2 * (x / 2) + 1 := by omega
      exact ⟨2 * (x / 2), by omega, 2 * y, by omega, by simpa [sources, hdouble] using hhalf⟩
  | yuv420p | yuvj420p =>
    obtain rfl | rfl | rfl : index = 0 ∨ index = 1 ∨ index = 2 := by
      rw [planeCount] at hindex
      omega
    · exact ⟨x, hx, y, hy, List.mem_cons_self⟩
    all_goals
      simp only [rowLength, rowCount, subsampled, chromaShift] at hx hy
      exact ⟨2 * x, by omega, 2 * y, by omega, by simp [sources, hdouble]⟩
  | yuv422p | yuvj422p =>
    obtain rfl | rfl | rfl : index = 0 ∨ index = 1 ∨ index = 2 := by
      rw [planeCount] at hindex
      omega
    · exact ⟨x, hx, y, hy, List.mem_cons_self⟩
    all_goals
      simp only [rowLength, rowCount, subsampled, chromaShift] at hx hy
      exact ⟨2 * x, by omega, y, by omega, by simp [sources, hdouble]⟩

/-- The channels of a pixel that has these bytes at its sources. -/
def packed (f : PixelFormat) (samples : Bytes) : Bytes :=
  match samples with
  | [luma, blue, red] => if f.isYuv then f.toFullRange luma blue red else samples
  | _ => samples

/-- Bytes from all sources of a pixel are packed as the format says. -/
lemma packs_packed {f : PixelFormat} {x y : Nat} {samples : Bytes}
    (h : samples.length = (f.sources x y).length) :
    (f.packed samples).length = f.colorType.channels ∧ f.Packs samples (f.packed samples) := by
  cases f with
  | gray8 =>
    obtain ⟨a, rfl⟩ := List.length_eq_one_iff.1 h
    exact ⟨rfl, rfl⟩
  | rgb24 | bgr24 | yuvj420p | yuvj422p =>
    obtain ⟨a, b, c, rfl⟩ := List.length_eq_three.1 h
    exact ⟨rfl, rfl⟩
  | nv12 | yuv420p | yuv422p =>
    obtain ⟨luma, blue, red, rfl⟩ := List.length_eq_three.1 h
    exact ⟨rfl, luma, blue, red, _, _, _, rfl, rfl, isClamped_clampByte _, isClamped_clampByte _,
      isClamped_clampByte _⟩

end PixelFormat

namespace Frame

/-- The channels are those of the pixel in column `x` of row `y`. -/
def IsPixel (f : Frame) (x y : Nat) (channels : Bytes) : Prop :=
  ∃ samples : Bytes,
    samples.map some = (f.format.sources x y).map (fun s => f.sample? s.1 s.2.1 s.2.2)
      ∧ f.format.Packs samples channels

/-- A pixel is packed from the bytes at its sources. -/
lemma pixel?_eq_mapM (f : Frame) (x y : Nat) :
    f.pixel? x y =
      ((f.format.sources x y).mapM fun s => f.byte? s.1 s.2.1 s.2.2).map f.format.packed := by
  obtain ⟨width, height, format, planes, pts, isKey⟩ := f
  cases format with
  | gray8 =>
    simp only [pixel?, PixelFormat.sources, List.mapM_cons, List.mapM_nil]
    generalize byte? _ 0 x y = a
    cases a <;> rfl
  | rgb24 | bgr24 =>
    simp only [pixel?, PixelFormat.sources, List.mapM_cons, List.mapM_nil]
    generalize byte? _ 0 (3 * x) y = a
    generalize byte? _ 0 (3 * x + 1) y = b
    generalize byte? _ 0 (3 * x + 2) y = c
    cases a <;> cases b <;> cases c <;> rfl
  | nv12 =>
    simp only [pixel?, PixelFormat.sources, PixelFormat.chromaShift,
      List.mapM_cons, List.mapM_nil]
    generalize byte? _ 0 x y = luma
    generalize byte? _ 1 (2 * _) _ = blue
    generalize byte? _ 1 (2 * _ + 1) _ = red
    cases luma <;> cases blue <;> cases red <;> rfl
  | yuv420p | yuvj420p | yuv422p | yuvj422p =>
    simp only [pixel?, PixelFormat.sources, PixelFormat.chromaShift, Nat.shiftRight_zero,
      List.mapM_cons, List.mapM_nil]
    generalize byte? _ 0 x y = luma
    generalize byte? _ 1 _ _ = blue
    generalize byte? _ 2 _ _ = red
    cases luma <;> cases blue <;> cases red <;> rfl

/-- In a whole picture the samples of a pixel are all there. -/
lemma Whole.exists_samples {f : Frame} (h : f.Whole) {x y : Nat} (hx : x < f.width)
    (hy : y < f.height) :
    ∃ samples, f.pixel? x y = some (f.format.packed samples)
      ∧ samples.map some = (f.format.sources x y).map fun s => f.sample? s.1 s.2.1 s.2.2 := by
  have hbyte : ∀ s ∈ f.format.sources x y,
      ∃ v, f.byte? s.1 s.2.1 s.2.2 = some v ∧ f.sample? s.1 s.2.1 s.2.2 = some v := by
    intro s hs
    obtain ⟨hindex, hcolumn, hrow⟩ := PixelFormat.mem_sources hx hy hs
    exact h.byte?_eq_some hindex hcolumn hrow
  refine ⟨(f.format.sources x y).map fun s => (f.byte? s.1 s.2.1 s.2.2).getD 0, ?_, ?_⟩
  · rw [pixel?_eq_mapM, mapM_eq_some_map (g := fun s => (f.byte? s.1 s.2.1 s.2.2).getD 0)]
    · rfl
    · intro s hs
      obtain ⟨v, hv, -⟩ := hbyte s hs
      rw [hv, Option.getD_some]
  · rw [List.map_map]
    refine List.map_congr_left fun s hs => ?_
    obtain ⟨v, hv, hv'⟩ := hbyte s hs
    rw [Function.comp_apply, hv, hv', Option.getD_some]

/-- In a whole picture every pixel has its channels. -/
lemma Whole.exists_pixel {f : Frame} (h : f.Whole) {x y : Nat} (hx : x < f.width)
    (hy : y < f.height) :
    ∃ channels, f.pixel? x y = some channels
      ∧ channels.length = f.format.colorType.channels ∧ f.IsPixel x y channels := by
  obtain ⟨samples, hpixel, hmap⟩ := h.exists_samples hx hy
  have hcount : samples.length = (f.format.sources x y).length := by
    rw [← List.length_map (f := some), hmap, List.length_map]
  obtain ⟨hlength, hpacks⟩ := PixelFormat.packs_packed hcount
  exact ⟨_, hpixel, hlength, samples, hmap, hpacks⟩

namespace Passes

variable {overflow : Overflow} {f f' : Frame}

/-- Pixels with the same samples at their sources are packed the same, also in different formats, if
these do the same with the samples. -/
lemma pixel?_congr (h : f.Passes overflow) (h' : f'.Passes overflow) (hwidth : f'.width = f.width)
    (hheight : f'.height = f.height) (hpacked : f'.format.packed = f.format.packed) {x y : Nat}
    (hx : x < f.width) (hy : y < f.height)
    (hsamples : (f'.format.sources x y).map (fun s => f'.sample? s.1 s.2.1 s.2.2)
      = (f.format.sources x y).map fun s => f.sample? s.1 s.2.1 s.2.2) :
    f'.pixel? x y = f.pixel? x y := by
  have hbytes : (f.format.sources x y).map (fun s => f.byte? s.1 s.2.1 s.2.2)
      = (f.format.sources x y).map fun s => f.sample? s.1 s.2.1 s.2.2 := by
    refine List.map_congr_left fun s hs => ?_
    obtain ⟨hindex, hcolumn, -⟩ := PixelFormat.mem_sources hx hy hs
    exact h.byte?_eq_sample? hindex hcolumn
  have hbytes' : (f'.format.sources x y).map (fun s => f'.byte? s.1 s.2.1 s.2.2)
      = (f'.format.sources x y).map fun s => f'.sample? s.1 s.2.1 s.2.2 := by
    refine List.map_congr_left fun s hs => ?_
    obtain ⟨hindex, hcolumn, -⟩ :=
      PixelFormat.mem_sources (hwidth.symm ▸ hx) (hheight.symm ▸ hy) hs
    exact h'.byte?_eq_sample? hindex hcolumn
  rw [pixel?_eq_mapM, pixel?_eq_mapM, hpacked]
  refine congrArg (Option.map f.format.packed) (Option.ext fun samples => ?_)
  rw [mapM_eq_some_iff, mapM_eq_some_iff, hbytes, hbytes', hsamples]

end Passes

/-- Pictures of one size with the same pixels are packed the same. -/
lemma scanBytes?_congr {f f' : Frame} (hwidth : f'.width = f.width) (hheight : f'.height = f.height)
    (hpixel : ∀ x < f.width, ∀ y < f.height, f'.pixel? x y = f.pixel? x y) :
    f'.scanBytes? = f.scanBytes? := by
  rw [scanBytes?, scanBytes?, hheight]
  refine congrArg (Option.map List.flatten) (mapM_congr fun y hy => ?_)
  rw [scanRow?, scanRow?, hwidth]
  refine congrArg (Option.map List.flatten) (mapM_congr fun x hx => ?_)
  exact hpixel x (List.mem_range.1 hx) y (List.mem_range.1 hy)

/-! ### The whole picture -/

/-- The channels of a pixel, none if it lacks a byte. -/
def channels (f : Frame) (x y : Nat) : Bytes := (f.pixel? x y).getD []

/-- The channels of a row, pixel after pixel. -/
def rowChannels (f : Frame) (y : Nat) : Bytes :=
  ((List.range f.width).map fun x => f.channels x y).flatten

namespace Whole

variable {f : Frame}

lemma pixel?_eq (h : f.Whole) {x y : Nat} (hx : x < f.width) (hy : y < f.height) :
    f.pixel? x y = some (f.channels x y) := by
  obtain ⟨channels, hpixel, -⟩ := h.exists_pixel hx hy
  rw [Frame.channels, hpixel, Option.getD_some]

lemma length_channels (h : f.Whole) {x y : Nat} (hx : x < f.width) (hy : y < f.height) :
    (f.channels x y).length = f.format.colorType.channels := by
  obtain ⟨channels, hpixel, hlength, -⟩ := h.exists_pixel hx hy
  rwa [Frame.channels, hpixel, Option.getD_some]

lemma isPixel_channels (h : f.Whole) {x y : Nat} (hx : x < f.width) (hy : y < f.height) :
    f.IsPixel x y (f.channels x y) := by
  obtain ⟨channels, hpixel, -, hispixel⟩ := h.exists_pixel hx hy
  rwa [Frame.channels, hpixel, Option.getD_some]

lemma scanBytes?_eq (h : f.Whole) :
    f.scanBytes? = some ((List.range f.height).map f.rowChannels).flatten := by
  have hrow : ∀ y ∈ List.range f.height, f.scanRow? y = some (f.rowChannels y) := by
    intro y hy
    have hpixels : ∀ x ∈ List.range f.width, f.pixel? x y = some (f.channels x y) :=
      fun x hx => h.pixel?_eq (List.mem_range.1 hx) (List.mem_range.1 hy)
    rw [scanRow?, mapM_eq_some_map hpixels]
    rfl
  rw [scanBytes?, mapM_eq_some_map hrow]
  rfl

lemma length_piece_of_row (h : f.Whole) {y : Nat} (hy : y < f.height) :
    ∀ piece ∈ (List.range f.width).map (fun x => f.channels x y),
      piece.length = f.format.colorType.channels := by
  intro piece hpiece
  obtain ⟨x, hx, rfl⟩ := List.mem_map.1 hpiece
  exact h.length_channels (List.mem_range.1 hx) hy

lemma length_row (h : f.Whole) :
    ∀ row ∈ (List.range f.height).map f.rowChannels,
      row.length = f.width * f.format.colorType.channels := by
  intro row hrow
  obtain ⟨y, hy, rfl⟩ := List.mem_map.1 hrow
  rw [rowChannels, length_flatten_of_forall (h.length_piece_of_row (List.mem_range.1 hy)),
    List.length_map, List.length_range]

/-- No byte of a whole picture is missing, so it fills a buffer of the size that its pixels take. -/
lemma exists_scanBytes (h : f.Whole) :
    ∃ bytes, f.scanBytes? = some bytes
      ∧ bytes.length = f.width * f.height * f.format.colorType.channels := by
  refine ⟨_, h.scanBytes?_eq, ?_⟩
  rw [length_flatten_of_forall h.length_row, List.length_map, List.length_range,
    ← Nat.mul_assoc, Nat.mul_comm f.height]

/-- The channels of a pixel stand where its number among all pixels says. -/
lemma take_drop_rows (h : f.Whole) {x y : Nat} (hx : x < f.width) (hy : y < f.height) :
    (((List.range f.height).map f.rowChannels).flatten.drop
        ((y * f.width + x) * f.format.colorType.channels)).take f.format.colorType.channels
      = f.channels x y := by
  have hrow : ((List.range f.height).map f.rowChannels)[y]? = some (f.rowChannels y) := by
    simp [hy]
  have hpixel :
      ((List.range f.width).map fun x => f.channels x y)[x]? = some (f.channels x y) := by
    simp [hx]
  have hinside : x * f.format.colorType.channels + f.format.colorType.channels
      ≤ f.width * f.format.colorType.channels := by
    rw [← Nat.succ_mul]
    exact Nat.mul_le_mul_right _ hx
  -- the pixel is a piece of its row, and the row is a piece of the whole
  rw [Nat.add_mul, Nat.mul_assoc, ← take_drop_take_drop _ hinside,
    take_drop_flatten h.length_row hrow]
  exact take_drop_flatten (h.length_piece_of_row hy) hpixel

end Whole

/-- A packed picture has a byte wherever it has to have one. -/
lemma exists_byte_of_scanBytes {f : Frame} {bytes : Bytes} (h : f.scanBytes? = some bytes)
    {index x y : Nat} (hindex : index < f.format.planeCount)
    (hx : x < f.format.rowLength index f.width) (hy : y < f.format.rowCount index f.height) :
    ∃ v, f.byte? index x y = some v := by
  obtain ⟨x', hx', y', hy', hsource⟩ := PixelFormat.exists_source hindex hx hy
  obtain ⟨rows, hrows, -⟩ := Option.map_eq_some_iff.1 h
  obtain ⟨row, hrow⟩ := exists_of_mapM_eq_some hrows (List.mem_range.2 hy')
  obtain ⟨pixels, hpixels, -⟩ := Option.map_eq_some_iff.1 hrow
  obtain ⟨channels, hchannels⟩ := exists_of_mapM_eq_some hpixels (List.mem_range.2 hx')
  rw [pixel?_eq_mapM] at hchannels
  obtain ⟨samples, hsamples, -⟩ := Option.map_eq_some_iff.1 hchannels
  exact exists_of_mapM_eq_some hsamples hsource

namespace Passes

variable {overflow : Overflow} {f : Frame}

/-- What is accepted and can be packed is whole. -/
lemma whole_of_scanBytes (h : f.Passes overflow) {bytes : Bytes}
    (hbytes : f.scanBytes? = some bytes) : f.Whole where
  width_pos := h.width_pos
  height_pos := h.height_pos
  count := h.count
  planes index hindex p hp := by
    have hstride := (h.planes index hindex p hp).stride
    refine ⟨hstride, ?_⟩
    have hlength := f.format.rowLength_pos index h.width_pos
    have hcount := f.format.rowCount_pos index h.height_pos
    -- the last byte of the last row
    obtain ⟨v, hv⟩ := exists_byte_of_scanBytes hbytes hindex
      (x := f.format.rowLength index f.width - 1) (y := f.format.rowCount index f.height - 1)
      (by omega) (by omega)
    rw [byte?, hp, Option.bind_some, Plane.byte?, if_pos (by omega)] at hv
    obtain ⟨hinside, -⟩ := Array.getElem?_eq_some_iff.1 hv
    rw [Nat.mul_comm]
    omega

/-- What is accepted can be packed exactly if the sizes fit into machine words. -/
lemma exists_scanBytes_iff (h : f.Passes overflow) (hmemory : ∀ p ∈ f.planes, p.InMemory) :
    (∃ bytes, f.scanBytes? = some bytes) ↔ f.SizesFit := by
  constructor
  · rintro ⟨bytes, hbytes⟩ index hindex p hp
    have hsize := ((h.whole_of_scanBytes hbytes).planes index hindex p hp).size
    have hbound := (hmemory p (List.mem_of_getElem? hp)).size
    rw [Plane.SizeFits]
    omega
  · intro hfits
    obtain ⟨bytes, hbytes, -⟩ := (h.whole hfits).exists_scanBytes
    exact ⟨bytes, hbytes⟩

lemma scanBytes?_eq_none (h : f.Passes overflow) (hmemory : ∀ p ∈ f.planes, p.InMemory)
    (hlarge : ¬ f.SizesFit) : f.scanBytes? = none := by
  rw [Option.eq_none_iff_forall_ne_some]
  intro bytes hbytes
  exact hlarge ((h.exists_scanBytes_iff hmemory).1 ⟨bytes, hbytes⟩)

end Passes

/-- Planes of a picture of three by three pixels: the rows are padded but for the last, and there is
a plane too many. -/
def paddedPlanes (padding : UInt8) : List Plane :=
  [{ data := #[16, 81, 235, padding, 126, 126, 126, padding, 0, 50, 255], stride := 4 },
    { data := #[128, 128, 16, 240, padding, 90, 240, 0, 255, padding], stride := 5 },
    { data := #[padding], stride := 1 }]

end Frame
end SipStills
