/-
# What an accepted picture holds

A picture is `Whole` if it is not empty, no plane is missing, and each plane holds all its rows, of
which the last may lack its padding.  `Frame.make` accepts planes exactly if they pass a comparison
of sizes (`make_eq_ok_iff`).  Where the size that a plane needs fits into a machine word, these are
the planes of whole pictures (`Passes.whole`), and a program that panics on overflow accepts no
others (`Passes.sizesFit`).  A program that wraps around does accept others, but then a row of the
picture starts behind the end of its plane (`Passes.exists_row_beyond`).

The byte in column `x` of row `y` of a plane is `Frame.sample?`, which counts from the start of the
plane and knows nothing of rows.  In a whole picture no byte of a row is missing, and looking into
the row finds the sample (`Whole.byte?_eq_some`).
-/
import Mathlib.Tactic.Lemma
import SipStills.Picture.Frame

namespace SipStills

/-! ### The size that a plane needs -/

namespace Overflow

variable {overflow : Overflow} {stride rowCount rowLength : Nat}

/-- What fits into a machine word is computed as it is. -/
lemma neededSize_of_lt (h : stride * (rowCount - 1) + rowLength < wordCount) :
    overflow.neededSize stride rowCount rowLength
      = .ok (stride * (rowCount - 1) + rowLength) := by
  have hbefore : stride * (rowCount - 1) < wordCount := by omega
  simp only [neededSize, word, if_pos hbefore]
  exact if_pos h

/-- A program that panics on overflow computes only what fits into a machine word. -/
lemma lt_of_neededSize {needed : Nat}
    (h : neededSize .panics stride rowCount rowLength = .ok needed) :
    stride * (rowCount - 1) + rowLength < wordCount := by
  rcases Nat.lt_or_ge (stride * (rowCount - 1)) wordCount with hbefore | hbefore
  · rcases Nat.lt_or_ge (stride * (rowCount - 1) + rowLength) wordCount with hsum | hsum
    · exact hsum
    · simp only [neededSize, word, if_pos hbefore] at h
      exact absurd (h.symm.trans (if_neg (Nat.not_lt_of_le hsum))) nofun
  · simp only [neededSize, word, if_neg (Nat.not_lt_of_le hbefore)] at h
    exact nomatch h

end Overflow

namespace Plane

/-- The plane holds all rows of plane `index` of a picture; the last one may lack its padding. -/
structure HoldsRows (format : PixelFormat) (width height index : Nat) (p : Plane) : Prop where
  stride : format.rowLength index width ≤ p.stride
  size :
    p.stride * (format.rowCount index height - 1) + format.rowLength index width ≤ p.data.size

/-- The plane is as long as is computed for plane `index` of a picture. -/
structure Passes (overflow : Overflow) (format : PixelFormat) (width height index : Nat)
    (p : Plane) : Prop where
  stride : format.rowLength index width ≤ p.stride
  size :
    ∃ needed,
      overflow.neededSize p.stride (format.rowCount index height) (format.rowLength index width)
        = .ok needed ∧ needed ≤ p.data.size

/-- The size that the rows of plane `index` of a picture take fits into a machine word. -/
def SizeFits (format : PixelFormat) (width height index : Nat) (p : Plane) : Prop :=
  p.stride * (format.rowCount index height - 1) + format.rowLength index width < wordCount

/-- The stride is a machine word, and there are no more bytes than a signed one can count. -/
structure InMemory (p : Plane) : Prop where
  stride : p.stride < wordCount
  size : 2 * p.data.size < wordCount

variable {p : Plane} {overflow : Overflow} {format : PixelFormat} {width height index : Nat}

lemma passes_iff_holdsRows (h : p.SizeFits format width height index) :
    p.Passes overflow format width height index ↔ p.HoldsRows format width height index := by
  constructor
  · rintro ⟨hstride, needed, hneeded, hsize⟩
    rw [Overflow.neededSize_of_lt h] at hneeded
    obtain rfl := Except.ok.inj hneeded
    exact ⟨hstride, hsize⟩
  · rintro ⟨hstride, hsize⟩
    exact ⟨hstride, _, Overflow.neededSize_of_lt h, hsize⟩

lemma Passes.sizeFits (h : p.Passes .panics format width height index) :
    p.SizeFits format width height index := by
  obtain ⟨needed, hneeded, -⟩ := h.size
  exact Overflow.lt_of_neededSize hneeded

/-- Where the size does not fit into a machine word, a row starts behind the end of the plane, and
the start of that row is a machine word. -/
lemma exists_row_beyond (hp : p.InMemory) (hstride : format.rowLength index width ≤ p.stride)
    (hlarge : ¬ p.SizeFits format width height index) :
    ∃ y < format.rowCount index height, p.data.size < y * p.stride ∧ y * p.stride < wordCount := by
  obtain ⟨hword, hsize⟩ := hp
  unfold SizeFits at hlarge
  generalize format.rowCount index height = count at hlarge ⊢
  generalize format.rowLength index width = length at hlarge hstride
  have hpos : 0 < p.stride := by
    rw [Nat.pos_iff_ne_zero]
    intro hzero
    rw [hzero, Nat.zero_mul] at hlarge
    omega
  -- the first row that starts behind the end
  have hbeyond : p.data.size < p.stride * (p.data.size / p.stride + 1) :=
    Nat.lt_mul_div_succ _ hpos
  have hstart : p.stride * (p.data.size / p.stride) ≤ p.data.size := Nat.mul_div_le _ _
  refine ⟨p.data.size / p.stride + 1, ?_, by rwa [Nat.mul_comm], ?_⟩
  · have hinside : p.data.size < p.stride * (count - 1) := by
      rcases Nat.lt_or_ge (2 * p.stride) wordCount with hnarrow | hwide
      · omega
      · have hcount : count - 1 ≠ 0 := by
          intro hone
          rw [hone, Nat.mul_zero] at hlarge
          omega
        have hone : p.stride * 1 ≤ p.stride * (count - 1) :=
          Nat.mul_le_mul_left _ (Nat.pos_of_ne_zero hcount)
        omega
    exact Nat.add_lt_of_lt_sub (Nat.div_lt_of_lt_mul hinside)
  · rw [Nat.mul_comm]
    rw [Nat.mul_succ] at hbeyond ⊢
    rcases Nat.lt_or_ge (2 * p.stride) wordCount with hnarrow | hwide
    · omega
    · rw [Nat.div_eq_of_lt (by omega)]
      omega

end Plane

/-! ### Pictures -/

namespace Frame

/-- The picture is not empty, and it has all planes with all their rows. -/
structure Whole (f : Frame) : Prop where
  width_pos : 0 < f.width
  height_pos : 0 < f.height
  count : f.format.planeCount ≤ f.planes.length
  planes : ∀ index < f.format.planeCount, ∀ p : Plane, f.planes[index]? = some p →
    p.HoldsRows f.format f.width f.height index

/-- The picture is not empty, and it has all planes, which are as long as is computed for them. -/
structure Passes (overflow : Overflow) (f : Frame) : Prop where
  width_pos : 0 < f.width
  height_pos : 0 < f.height
  count : f.format.planeCount ≤ f.planes.length
  planes : ∀ index < f.format.planeCount, ∀ p : Plane, f.planes[index]? = some p →
    p.Passes overflow f.format f.width f.height index

/-- The sizes that the planes of the picture need fit into machine words. -/
def SizesFit (f : Frame) : Prop :=
  ∀ index < f.format.planeCount, ∀ p : Plane, f.planes[index]? = some p →
    p.SizeFits f.format f.width f.height index

section

variable {overflow : Overflow} {format : PixelFormat} {width height : Nat}

lemma planeFault?_cons_eq_none_iff {index : Nat} {p : Plane} {ps : List Plane} :
    planeFault? overflow format width height index (p :: ps) = none
      ↔ p.Passes overflow format width height index
        ∧ planeFault? overflow format width height (index + 1) ps = none := by
  rw [planeFault?]
  split
  · rename_i hshort
    refine iff_of_false (by simp) ?_
    rintro ⟨hp, -⟩
    exact absurd hp.stride (Nat.not_le_of_lt hshort)
  · rename_i hstride
    split
    · rename_i fault hfault
      -- the size that the plane needs is not computed
      refine iff_of_false (by simp) ?_
      rintro ⟨⟨-, needed, hneeded, -⟩, -⟩
      rw [hfault] at hneeded
      exact absurd hneeded (by simp)
    · rename_i needed hneeded
      split
      · rename_i hshort
        refine iff_of_false (by simp) ?_
        rintro ⟨⟨-, needed', hneeded', hsize⟩, -⟩
        obtain rfl : needed = needed' := Except.ok.inj (hneeded.symm.trans hneeded')
        exact absurd hsize (Nat.not_le_of_lt hshort)
      · rename_i hsize
        have hp : p.Passes overflow format width height index :=
          ⟨Nat.le_of_not_lt hstride, needed, hneeded, Nat.le_of_not_lt hsize⟩
        exact ⟨fun hrest => ⟨hp, hrest⟩, And.right⟩

lemma planeFault?_eq_none_iff {index : Nat} {planes : List Plane} :
    planeFault? overflow format width height index planes = none
      ↔ ∀ i (p : Plane), planes[i]? = some p →
          p.Passes overflow format width height (index + i) := by
  -- the planes behind the first one are numbered from `index + 1`
  induction planes generalizing index with
  | nil => simp [planeFault?]
  | cons plane planes ih =>
    rw [planeFault?_cons_eq_none_iff, ih]
    constructor
    · rintro ⟨hplane, hplanes⟩ i p hp
      cases i with
      | zero =>
        obtain rfl := Option.some.inj hp
        exact hplane
      | succ i =>
        rw [← Nat.succ_add_eq_add_succ]
        exact hplanes i p hp
    · intro h
      refine ⟨h 0 plane rfl, fun i p hp => ?_⟩
      have hnext := h (i + 1) p hp
      rwa [← Nat.succ_add_eq_add_succ] at hnext

/-- The planes of the format have no fault if they pass; those beyond them are not looked at. -/
lemma planeFault?_take_eq_none_iff {planes : List Plane} :
    planeFault? overflow format width height 0 (planes.take format.planeCount) = none
      ↔ ∀ index < format.planeCount, ∀ p : Plane, planes[index]? = some p →
          p.Passes overflow format width height index := by
  simp only [planeFault?_eq_none_iff, List.getElem?_take, Nat.zero_add]
  constructor
  · intro h index hindex p hp
    exact h index p (by rwa [if_pos hindex])
  · intro h index p hp
    split at hp
    · rename_i hindex
      exact h index hindex p hp
    · exact absurd hp (by simp)

/-- Planes are accepted exactly if they pass. -/
lemma make_eq_ok_iff {planes : List Plane} {f : Frame} :
    make width height format planes overflow = .ok f
      ↔ f = { width, height, format, planes } ∧ f.Passes overflow := by
  unfold make
  split
  · rename_i hempty
    refine iff_of_false (by simp) ?_
    rintro ⟨rfl, hpasses⟩
    exact hempty.elim (Nat.ne_of_gt hpasses.width_pos) (Nat.ne_of_gt hpasses.height_pos)
  · rename_i hsize
    split
    · rename_i hfew
      refine iff_of_false (by simp) ?_
      rintro ⟨rfl, hpasses⟩
      exact absurd hpasses.count (Nat.not_le_of_lt hfew)
    · rename_i hcount
      split
      · rename_i fault hfault
        refine iff_of_false (by simp) ?_
        rintro ⟨rfl, hpasses⟩
        rw [planeFault?_take_eq_none_iff.2 hpasses.planes] at hfault
        exact absurd hfault (by simp)
      · rename_i hplanes
        constructor
        · intro h
          obtain rfl := Except.ok.inj h
          obtain ⟨hwidth, hheight⟩ := not_or.1 hsize
          exact ⟨rfl, Nat.pos_of_ne_zero hwidth, Nat.pos_of_ne_zero hheight,
            Nat.le_of_not_lt hcount, planeFault?_take_eq_none_iff.1 hplanes⟩
        · rintro ⟨rfl, -⟩
          rfl

end

/-- The picture was made of planes that were accepted; its time and its key mark may have been set
since. -/
def Accepted (f : Frame) (overflow : Overflow := .panics) : Prop :=
  ∃ made pts isKey, make f.width f.height f.format f.planes overflow = .ok made
    ∧ f = (made.withPts pts).withKey isKey

namespace Passes

variable {overflow : Overflow} {f : Frame}

/-- Where the sizes fit into machine words, what is accepted is whole. -/
lemma whole (h : f.Passes overflow) (hfits : f.SizesFit) : f.Whole where
  width_pos := h.width_pos
  height_pos := h.height_pos
  count := h.count
  planes index hindex p hp :=
    (Plane.passes_iff_holdsRows (hfits index hindex p hp)).1 (h.planes index hindex p hp)

/-- A program that panics on overflow accepts planes only if their sizes fit. -/
lemma sizesFit (h : f.Passes .panics) : f.SizesFit :=
  fun index hindex p hp => (h.planes index hindex p hp).sizeFits

/-- Where the sizes do not fit, what is accepted lacks a row. -/
lemma exists_row_beyond (h : f.Passes overflow) (hmemory : ∀ p ∈ f.planes, p.InMemory)
    (hlarge : ¬ f.SizesFit) :
    ∃ index < f.format.planeCount, ∃ p, f.planes[index]? = some p
      ∧ ∃ y < f.format.rowCount index f.height,
          p.data.size < y * p.stride ∧ y * p.stride < wordCount := by
  simp only [SizesFit, Classical.not_forall] at hlarge
  obtain ⟨index, hindex, p, hp, hsize⟩ := hlarge
  exact ⟨index, hindex, p, hp, Plane.exists_row_beyond
    (hmemory p (List.mem_of_getElem? hp)) (h.planes index hindex p hp).stride hsize⟩

end Passes

lemma Accepted.passes {overflow : Overflow} {f : Frame} (h : f.Accepted overflow) :
    f.Passes overflow := by
  obtain ⟨made, pts, isKey, hmake, -⟩ := h
  -- neither time nor key mark are among the conditions
  obtain ⟨rfl, hwidth, hheight, hcount, hplanes⟩ := make_eq_ok_iff.1 hmake
  exact ⟨hwidth, hheight, hcount, hplanes⟩

/-- The byte in column `x` of row `y` of a plane, counted from the start of the plane. -/
def sample? (f : Frame) (index x y : Nat) : Option UInt8 :=
  (f.planes[index]?).bind fun p => p.data[y * p.stride + x]?

/-- Looking into a row finds the sample. -/
lemma Passes.byte?_eq_sample? {overflow : Overflow} {f : Frame} (h : f.Passes overflow)
    {index x y : Nat} (hindex : index < f.format.planeCount)
    (hx : x < f.format.rowLength index f.width) : f.byte? index x y = f.sample? index x y := by
  rw [byte?, sample?]
  cases hp : f.planes[index]? with
  | none => rfl
  | some p =>
    rw [Option.bind_some, Option.bind_some, Plane.byte?]
    exact if_pos (Nat.lt_of_lt_of_le hx (h.planes index hindex p hp).stride)

/-- In a whole picture no byte of a row is missing, and it is where the stride says. -/
lemma Whole.byte?_eq_some {f : Frame} (h : f.Whole) {index x y : Nat}
    (hindex : index < f.format.planeCount) (hx : x < f.format.rowLength index f.width)
    (hy : y < f.format.rowCount index f.height) :
    ∃ v, f.byte? index x y = some v ∧ f.sample? index x y = some v := by
  have hplane : index < f.planes.length := by
    have hcount := h.count
    omega
  have hp : f.planes[index]? = some f.planes[index] := List.getElem?_eq_getElem hplane
  obtain ⟨hstride, hsize⟩ := h.planes index hindex _ hp
  generalize f.planes[index] = p at hp hstride hsize
  have hinside : y * p.stride + x < p.data.size := by
    -- the last row is the one that may be cut, and `x` is still before its cut
    have hrows : y * p.stride ≤ p.stride * (f.format.rowCount index f.height - 1) := by
      rw [Nat.mul_comm y]
      exact Nat.mul_le_mul_left _ (by omega)
    omega
  refine ⟨p.data[y * p.stride + x], ?_, ?_⟩
  · simp only [byte?, hp, Option.bind_some, Plane.byte?]
    rw [if_pos (by omega), Array.getElem?_eq_getElem hinside]
  · simp only [sample?, hp, Option.bind_some]
    rw [Array.getElem?_eq_getElem hinside]

end Frame
end SipStills
