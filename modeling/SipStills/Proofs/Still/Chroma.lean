/-
# One picture in several formats

The chroma of a picture may be kept in two planes or in one plane of pairs, and for each second row
or for every row.  What a compressor is given depends on the samples and not on how they are kept:
a picture with its chroma in pairs is packed as the same picture with its chroma in planes, and so
is one that repeats each row of chroma (`scanOf_eq_of_same_chroma`), whatever their strides and
padding are.  Where the chroma is kept for every row, only the sampling factors differ.

A pixel is made of the samples at its sources and of nothing else (`Passes.pixel?_congr`), so it is
enough to compare the samples there.  Where the size of a plane was wrapped around, samples are
missing, and pictures that lack the same samples are refused alike.
-/
import SipStills.Proofs.Still.Encoder

namespace SipStills

namespace Frame

/-! ### Pictures with the same samples -/

/-- The second picture shows the first, of which it has the luma, and keeps in one plane the pairs
of chroma samples that the first keeps in two. -/
structure PairsChroma (planar paired : Frame) : Prop where
  width : paired.width = planar.width
  height : paired.height = planar.height
  luma : ∀ x < planar.width, ∀ y < planar.height, paired.sample? 0 x y = planar.sample? 0 x y
  blue : ∀ cx < (planar.width + 1) / 2, ∀ cy < (planar.height + 1) / 2,
    paired.sample? 1 (2 * cx) cy = planar.sample? 1 cx cy
  red : ∀ cx < (planar.width + 1) / 2, ∀ cy < (planar.height + 1) / 2,
    paired.sample? 1 (2 * cx + 1) cy = planar.sample? 2 cx cy

/-- The second picture shows the first, of which it has the luma, and has each row of its chroma for
both of the rows of pixels that share it in the first. -/
structure RepeatsChroma (planar tall : Frame) : Prop where
  width : tall.width = planar.width
  height : tall.height = planar.height
  luma : ∀ x < planar.width, ∀ y < planar.height, tall.sample? 0 x y = planar.sample? 0 x y
  blue : ∀ cx < (planar.width + 1) / 2, ∀ y < planar.height,
    tall.sample? 1 cx y = planar.sample? 1 cx (y >>> 1)
  red : ∀ cx < (planar.width + 1) / 2, ∀ y < planar.height,
    tall.sample? 2 cx y = planar.sample? 2 cx (y >>> 1)

lemma half_lt {x n : Nat} (h : x < n) : x >>> 1 < (n + 1) / 2 := by
  rw [Nat.shiftRight_eq_div_pow]
  omega

variable {overflow : Overflow}

/-- Pictures with the same samples of luma and chroma are packed the same, in planes or in pairs. -/
lemma PairsChroma.scanBytes?_eq {planar paired : Frame} (h : PairsChroma planar paired)
    (hplanar : planar.Passes overflow) (hpaired : paired.Passes overflow)
    (hformat : planar.format = .yuv420p) (hformat' : paired.format = .nv12) :
    paired.scanBytes? = planar.scanBytes? := by
  refine scanBytes?_congr h.width h.height fun x hx y hy => ?_
  refine hplanar.pixel?_congr hpaired h.width h.height (by rw [hformat, hformat']; rfl) hx hy ?_
  simp only [hformat, hformat', PixelFormat.sources, List.map_cons, List.map_nil, h.luma x hx y hy,
    h.blue _ (half_lt hx) _ (half_lt hy), h.red _ (half_lt hx) _ (half_lt hy)]

/-- Pictures with the same samples of luma and chroma are packed the same, with a row of chroma for
each second row or for every row. -/
lemma RepeatsChroma.scanBytes?_eq {planar tall : Frame} (h : RepeatsChroma planar tall)
    (hplanar : planar.Passes overflow) (htall : tall.Passes overflow)
    (hformat : planar.format = .yuv420p) (hformat' : tall.format = .yuv422p) :
    tall.scanBytes? = planar.scanBytes? := by
  refine scanBytes?_congr h.width h.height fun x hx y hy => ?_
  refine hplanar.pixel?_congr htall h.width h.height (by rw [hformat, hformat']; rfl) hx hy ?_
  simp only [hformat, hformat', PixelFormat.sources, List.map_cons, List.map_nil, h.luma x hx y hy,
    h.blue _ (half_lt hx) y hy, h.red _ (half_lt hx) y hy]

end Frame

/-! ### What the compressor is given -/

namespace StillEncoder

/-- What an encoder that is opened for a picture hands to the compressor for it. -/
def scanOf (e : StillEncoder) (f : Frame) : Except StillFault Scan :=
  e.openFor (.ofFrame f) >>= fun s => s.scan f

/-- Whether an encoder can be opened depends on the size alone. -/
lemma openFor_bind {β : Type} (e : StillEncoder) {params : EncodeParams} {width height : Nat}
    (hwidth : params.width = width) (hheight : params.height = height)
    (next : StillSession → Except StillFault β) :
    e.openFor params >>= next
      = if width = 0 ∨ height = 0 then .error (.emptySize width height)
        else if maxStillSize < width ∨ maxStillSize < height then .error (.tooLarge width height)
        else next ⟨params, e.quality⟩ := by
  subst hwidth hheight
  unfold openFor
  split_ifs <;> rfl

/-- For pictures of one size with the same packed pixels the scans differ in their sampling factors
at most. -/
lemma scanOf_congr (e : StillEncoder) {f f' : Frame} (hwidth : f'.width = f.width)
    (hheight : f'.height = f.height) (hcolor : f'.format.colorType = f.format.colorType)
    (hbytes : f'.scanBytes? = f.scanBytes?) :
    e.scanOf f' = (e.scanOf f).map fun scan =>
      { scan with sampling := samplingFactors f'.format.chromaShift } := by
  have hwidth' : (EncodeParams.ofFrame f).width = f.width := rfl
  have hheight' : (EncodeParams.ofFrame f).height = f.height := rfl
  rw [scanOf, scanOf, e.openFor_bind hwidth hheight, e.openFor_bind hwidth' hheight']
  split
  · rfl
  · split
    · rfl
    · simp only [StillSession.scan, EncodeParams.ofFrame, hwidth, hheight, hcolor, hbytes, ne_eq,
        not_true, or_self, if_false]
      cases f.scanBytes? <;> rfl

/-- A picture with its chroma in planes, one row of it for two rows of pixels.  The same picture
with its chroma in pairs gives the compressor the same scan, and with a row of chroma for every row
of pixels it gives a scan that differs in the sampling factors alone; all of them are refused if the
picture is too large or lacks a byte. -/
theorem scanOf_eq_of_same_chroma (e : StillEncoder) {overflow : Overflow} {planar : Frame}
    (hplanar : planar.Accepted overflow) (hformat : planar.format = .yuv420p) :
    (∀ paired : Frame, paired.Accepted overflow → paired.format = .nv12 →
        planar.PairsChroma paired → e.scanOf paired = e.scanOf planar)
      ∧ (∀ tall : Frame, tall.Accepted overflow → tall.format = .yuv422p →
        planar.RepeatsChroma tall →
          e.scanOf tall = (e.scanOf planar).map fun scan => { scan with sampling := (2, 1) })
      ∧ (overflow = .panics ∨ planar.SizesFit → planar.width ≤ 65535 → planar.height ≤ 65535 →
        ∃ scan, e.scanOf planar = .ok scan ∧ scan.Shows planar) := by
  have hpasses := hplanar.passes
  have hshown : overflow = .panics ∨ planar.SizesFit → planar.width ≤ 65535 →
      planar.height ≤ 65535 → ∃ scan, e.scanOf planar = .ok scan ∧ scan.Shows planar := by
    intro hfits hw hh
    have hwhole : planar.Whole := by
      rcases hfits with rfl | hfits
      · exact hpasses.whole hpasses.sizesFit
      · exact hpasses.whole hfits
    have hopened : e.openFor (.ofFrame planar) = .ok ⟨.ofFrame planar, e.quality⟩ :=
      openFor_eq_ok_iff.2 ⟨⟨hwhole.width_pos, hw⟩, ⟨hwhole.height_pos, hh⟩, rfl⟩
    obtain ⟨scan, hscan, hshows, -⟩ := StillSession.exists_scan_shows
      (s := ⟨.ofFrame planar, e.quality⟩) hwhole rfl rfl hw hh
    refine ⟨scan, ?_, hshows⟩
    rw [scanOf, hopened]
    exact hscan
  refine ⟨fun paired hpaired hformat' hpairs => ?_, fun tall htall hformat' hrepeats => ?_, hshown⟩
  · have hsame := e.scanOf_congr (Eq.refl planar.width) (Eq.refl planar.height) rfl rfl
    rw [e.scanOf_congr hpairs.width hpairs.height (by rw [hformat, hformat']; rfl)
      (hpairs.scanBytes?_eq hpasses hpaired.passes hformat hformat'), hformat']
    rw [hformat] at hsame
    exact hsame.symm
  · rw [e.scanOf_congr hrepeats.width hrepeats.height (by rw [hformat, hformat']; rfl)
      (hrepeats.scanBytes?_eq hpasses htall.passes hformat hformat'), hformat']
    rfl

/-- One picture of three by three pixels in three formats and with three kinds of padding; the last
column and the last row of chroma belong to one column and one row of pixels. -/
theorem scanOf_eq_of_same_chroma_odd :
    let planar : Frame :=
      { width := 3, height := 3, format := .yuv420p
        planes :=
          [⟨#[16, 81, 235, 0, 126, 127, 128, 0, 0, 50, 255], 4⟩, ⟨#[128, 16, 90, 240], 2⟩,
            ⟨#[128, 240, 0, 16, 77], 3⟩] }
    let paired : Frame :=
      { width := 3, height := 3, format := .nv12
        planes :=
          [⟨#[16, 81, 235, 126, 127, 128, 0, 50, 255], 3⟩,
            ⟨#[128, 128, 16, 240, 9, 90, 16, 240, 77], 5⟩] }
    let tall : Frame :=
      { width := 3, height := 3, format := .yuv422p
        planes :=
          [⟨#[16, 81, 235, 126, 127, 128, 0, 50, 255], 3⟩, ⟨#[128, 16, 128, 16, 90, 240], 2⟩,
            ⟨#[128, 240, 0, 128, 240, 0, 16, 77, 0], 3⟩] }
    let e := StillEncoder.ofQuality 85
    planar.Accepted ∧ paired.Accepted ∧ tall.Accepted
      ∧ planar.PairsChroma paired ∧ planar.RepeatsChroma tall
      ∧ e.scanOf paired = e.scanOf planar
      ∧ e.scanOf tall = (e.scanOf planar).map (fun scan => { scan with sampling := (2, 1) })
      ∧ ∃ scan, e.scanOf planar = .ok scan ∧ scan.Shows planar := by
  intro planar paired tall e
  have hplanar : Frame.make 3 3 .yuv420p planar.planes = .ok _ := rfl
  have hpaired : Frame.make 3 3 .nv12 paired.planes = .ok _ := rfl
  have htall : Frame.make 3 3 .yuv422p tall.planes = .ok _ := rfl
  have haccepted : planar.Accepted := ⟨_, none, false, hplanar, rfl⟩
  have hpaired' : paired.Accepted := ⟨_, none, false, hpaired, rfl⟩
  have htall' : tall.Accepted := ⟨_, none, false, htall, rfl⟩
  have hpairs : planar.PairsChroma paired :=
    ⟨rfl, rfl, by decide, by decide, by decide⟩
  have hrepeats : planar.RepeatsChroma tall :=
    ⟨rfl, rfl, by decide, by decide, by decide⟩
  obtain ⟨hsame, hsame', hshown⟩ := scanOf_eq_of_same_chroma e haccepted rfl
  exact ⟨haccepted, hpaired', htall', hpairs, hrepeats, hsame paired hpaired' rfl hpairs,
    hsame' tall htall' rfl hrepeats, hshown (.inl rfl) (by decide) (by decide)⟩

end StillEncoder
end SipStills
