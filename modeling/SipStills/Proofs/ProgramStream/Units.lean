/-
# The lengths of access units

Between two calls the length announced for the unit in progress is the length of the payloads that
have arrived for it (`Demuxer.Level`), since only whole packets are taken off.  So a push gives out
units of which no byte is missing (`AccessUnit.IsWhole`), and only `finish`, which adds the part of
a packet that has arrived, may give out one that announces more than it holds.
-/
import SipStills.Proofs.ProgramStream.Chunking

namespace SipStills.ProgramStream

/-- The unit holds as many bytes as its packets announce, and holds some. -/
structure AccessUnit.IsWhole (u : AccessUnit) : Prop where
  data_ne_nil : u.data ≠ []
  expected_eq : u.expected = u.data.length

namespace Demuxer

/-- The unit in progress, as it would be given out now. -/
def current (d : Demuxer) : AccessUnit := ⟨d.codec, d.nextIndex, d.expected, d.payload⟩

lemma flush_of_payload_ne_nil {d : Demuxer} (h : d.payload ≠ []) : d.flush.1 = some d.current := by
  rw [flush, if_neg h]
  rfl

lemma mem_flush_iff {d : Demuxer} {u : AccessUnit} :
    u ∈ d.flush.1 ↔ d.payload ≠ [] ∧ u = d.current := by
  by_cases h : d.payload = []
  · simp [flush, h]
  · simp [flush_of_payload_ne_nil h, h, eq_comm]

/-- The length announced for the unit in progress is that of its payloads. -/
def Level (d : Demuxer) : Prop := d.expected = d.payload.length

lemma level_withCodec (codec : CodecId) : (withCodec codec).Level := rfl

/-- After the unit in progress was given out, nothing is announced. -/
lemma level_flush (d : Demuxer) : d.flush.2.Level := by
  unfold flush
  split
  · rename_i hnil
    simp [Level, hnil]
  · rfl

lemma Level.isWhole_of_mem_flush {d : Demuxer} (h : d.Level) {u : AccessUnit}
    (hu : u ∈ d.flush.1) : u.IsWhole := by
  obtain ⟨hne, rfl⟩ := mem_flush_iff.1 hu
  exact ⟨hne, h⟩

/-- A payload is added together with its length. -/
lemma Level.extend {d : Demuxer} (h : d.Level) {payload : Bytes} {announced : Nat}
    (hlength : payload.length = announced) : (d.extend payload announced).Level := by
  rw [Level, Demuxer.extend, List.length_append, hlength, h]

/-- Whatever is taken off the pending bytes, the lengths stay level, and a unit that is given out is
whole. -/
lemma Level.advance {d : Demuxer} (h : d.Level) :
    d.advance.2.Level ∧ ∀ u ∈ d.advance.1, u.IsWhole := by
  have hsize := portion_size_le d.pending
  simp only [Demuxer.advance]
  cases hp : portion d.pending with
  | incomplete | garbage n | other n | map n => exact ⟨h, fun u hu => absurd hu (by simp [absorb])⟩
  | pack n | endCode => exact ⟨level_flush d, fun u hu => h.isWhole_of_mem_flush hu⟩
  | video n header =>
    rw [hp] at hsize
    have hn : n ≤ d.pending.length := hsize
    have hlength : ((d.pending.take n).drop header).length = n - header := by
      rw [List.length_drop, List.length_take, Nat.min_eq_left hn]
    exact ⟨h.extend hlength, fun u hu => absurd hu (by simp [absorb])⟩

lemma Level.drain {d : Demuxer} (h : d.Level) :
    d.drain.2.Level ∧ ∀ u ∈ d.drain.1, u.IsWhole := by
  fun_induction Demuxer.drain d with
  | case1 d hp => exact ⟨h, fun u hu => absurd hu (by simp)⟩
  | case2 d hp r hlt rest ih =>
    obtain ⟨hnext, hfirst⟩ := h.advance
    obtain ⟨hlast, hrest⟩ := ih hnext
    refine ⟨hlast, fun u hu => ?_⟩
    rcases List.mem_append.1 hu with hu | hu
    · exact hfirst u (Option.mem_toList.1 hu)
    · exact hrest u hu

/-- A push gives out whole units. -/
lemma Level.push {d : Demuxer} (h : d.Level) (chunk : Bytes) :
    (d.push chunk).2.Level ∧ ∀ u ∈ (d.push chunk).1, u.IsWhole :=
  Level.drain (d := d.feed chunk) h

/-- What has arrived of a packet that was cut off is no longer than announced. -/
lemma Level.length_payload_salvage_le {d : Demuxer} (h : d.Level) (bytes : Bytes) :
    (d.salvage bytes).payload.length ≤ (d.salvage bytes).expected := by
  have hlevel : d.expected = d.payload.length := h
  obtain ⟨payload, announced, hle, heq⟩ := exists_salvage_eq d bytes
  rw [heq, Demuxer.extend, List.length_append, hlevel]
  exact Nat.add_le_add_left hle _

/-- At the end a unit may hold less than announced, but no more. -/
lemma Level.length_data_le_of_mem_finish {d : Demuxer} (h : d.Level) {u : AccessUnit}
    (hu : u ∈ d.finish.1) : u.data.length ≤ u.expected := by
  obtain ⟨-, rfl⟩ := mem_flush_iff.1 hu
  exact Level.length_payload_salvage_le (d := { d with pending := [] }) h d.pending

end Demuxer
end SipStills.ProgramStream
