/-
# Finding the first unit

A demuxer that is given garbage in front of a stream finds the first unit of the stream and
nothing earlier: it gives out what it would have given out without the garbage, ends in the same
state, and has skipped exactly the garbage.

Garbage may hold start codes, as long as their codes are those of no unit, so the way to the first
unit may take several steps.  What they have in common is said by `exists_portion_eq_garbage`: in
front of the first unit every portion is garbage, since nothing else can be there (`Front`), and it
does not reach beyond the unit's first byte.  By induction on the way that is left, draining finds
the unit (`drain_skip_of_first`), and the rest does not depend on how much was skipped before
(`drain_after`).
-/
import SipStills.Proofs.ProgramStream.Front
import SipStills.Proofs.ProgramStream.Past

namespace SipStills.ProgramStream

/-- In front of the first unit stands garbage, and the portion of it that is seen ends at the unit
at the latest. -/
lemma exists_portion_eq_garbage {bytes : Bytes} {k : Nat} (h : UnitAt bytes k)
    (hfirst : ∀ n < k, ¬ UnitAt bytes n) (hk : 0 < k) :
    ∃ n, 0 < n ∧ n ≤ k ∧ portion bytes = .garbage n := by
  have hlen := h.lt_length
  have hzero : ¬ UnitAt bytes 0 := hfirst 0 hk
  have hfront := front_portion bytes
  generalize portion bytes = p at hfront ⊢
  cases hfront with
  | incomplete hwaits =>
    rcases hwaits with hshort | ⟨hunit, -⟩
    · omega
    · exact absurd hunit hzero
  | garbage hpos _ hnone =>
    refine ⟨_, hpos, ?_, rfl⟩
    by_contra hlt
    exact hnone k (by omega) h
  | plain _ hannounces => exact absurd hannounces.unitAt hzero
  | video hvideo => exact absurd (Announces.video hvideo).unitAt hzero

namespace Demuxer

/-! ### Skipping up to the first unit -/

lemma drain_skip_of_garbage {d : Demuxer} {n : Nat} (h : portion d.pending = .garbage n) :
    (d.skip n).drain = d.drain := by
  have hne : portion d.pending ≠ .incomplete := by
    rw [h]
    exact Portion.noConfusion
  have hadvance : d.advance = (none, d.skip n) := by
    simp only [advance, h]
    rfl
  rw [drain_eq_of_ne hne, hadvance]
  rfl

/-- All that stands in front of the first unit may be skipped first. -/
lemma drain_skip_of_first {d : Demuxer} {k : Nat} (h : UnitAt d.pending k)
    (hfirst : ∀ n < k, ¬ UnitAt d.pending n) : (d.skip k).drain = d.drain := by
  induction k using Nat.strongRecOn generalizing d with
  | ind k ih =>
    rcases Nat.eq_zero_or_pos k with rfl | hk
    · rw [skip_zero]
    · obtain ⟨n, hn, hnk, hgarbage⟩ := exists_portion_eq_garbage h hfirst hk
      -- behind the portion the unit is nearer, and it is still the first
      have hnext : UnitAt (d.skip n).pending (k - n) := by
        rw [pending_skip, unitAt_drop, Nat.add_sub_cancel' hnk]
        exact h
      have hnextFirst : ∀ m < k - n, ¬ UnitAt (d.skip n).pending m := by
        intro m hm
        rw [pending_skip, unitAt_drop]
        exact hfirst (n + m) (by omega)
      calc (d.skip k).drain
          = ((d.skip n).skip (k - n)).drain := by rw [skip_skip, Nat.add_sub_cancel' hnk]
        _ = (d.skip n).drain := ih (k - n) (by omega) hnext hnextFirst
        _ = d.drain := drain_skip_of_garbage hgarbage

/-! ### Garbage in front of a stream -/

/-- Garbage in front of a unit is skipped and leaves no other trace. -/
lemma push_append_of_first {d : Demuxer} {garbage stream : Bytes} (hd : d.pending = [])
    (hstream : UnitAt stream 0) (hfirst : ∀ n < garbage.length, ¬ UnitAt (garbage ++ stream) n) :
    d.push (garbage ++ stream)
      = ((d.push stream).1, (d.push stream).2.after { skipped := garbage.length }) := by
  have hpending : (d.feed (garbage ++ stream)).pending = garbage ++ stream := by
    rw [pending_feed, hd, List.nil_append]
  have hunit : UnitAt (garbage ++ stream) garbage.length := by
    rw [← Nat.add_zero garbage.length, ← unitAt_drop, List.drop_left]
    exact hstream
  have hskip : (d.feed (garbage ++ stream)).skip garbage.length
      = (d.feed stream).after { skipped := garbage.length } := by
    rw [after_skipped]
    simp only [skip, feed, hd, List.nil_append, List.drop_left]
  calc d.push (garbage ++ stream)
      = ((d.feed (garbage ++ stream)).skip garbage.length).drain := by
        rw [push_eq_drain_feed]
        exact (drain_skip_of_first (by rwa [hpending]) (by rwa [hpending])).symm
    _ = ((d.feed stream).after { skipped := garbage.length }).drain := by rw [hskip]
    _ = ((d.push stream).1, (d.push stream).2.after { skipped := garbage.length }) := by
        rw [drain_after, AccessUnit.map_numberedAfter_zero, push_eq_drain_feed]

/-- Where garbage stands in front of a stream that begins with a unit, and no unit begins in the
garbage, pushing both in any chunks gives out the access units of the stream and leads to the same
state as pushing the stream alone, but for the count of skipped bytes, which is larger by the length
of the garbage. -/
theorem pushAll_garbage_append {d : Demuxer} {garbage stream : Bytes} {chunks : List Bytes}
    (hd : d.pending = []) (hstream : UnitAt stream 0)
    (hfirst : ∀ n < garbage.length, ¬ UnitAt (garbage ++ stream) n)
    (hchunks : chunks.flatten = garbage ++ stream) :
    (d.pushAll chunks).1 = (d.push stream).1
      ∧ (d.pushAll chunks).2
        = { (d.push stream).2 with skipped := (d.push stream).2.skipped + garbage.length } := by
  have hsettled : d.Settled := by
    rw [Settled, hd]
    rfl
  rw [pushAll_eq_of_settled hsettled, hchunks, push_append_of_first hd hstream hfirst]
  exact ⟨rfl, after_skipped _ _⟩

/-- The garbage has a start code of no unit and ends in zeros that run on into the stream, which is
a packet of audio and an end code; a cut falls into the unit's start code. -/
theorem pushAll_garbage_append_overlapping :
    let d : Demuxer := { withCodec .h264 with payload := [9], expected := 1, skipped := 3 }
    let garbage : Bytes := [0, 0, 1, 0xB8, 7, 0, 0, 0]
    let stream : Bytes := [0, 0, 1, 0xC0, 0, 1, 5, 0, 0, 1, 0xB9]
    let chunks : List Bytes :=
      [[0, 0, 1], [0xB8, 7, 0, 0, 0, 0, 0], [], [1, 0xC0, 0, 1, 5, 0, 0, 1, 0xB9]]
    d.pending = [] ∧ UnitAt stream 0 ∧ (∀ n < garbage.length, ¬ UnitAt (garbage ++ stream) n)
      ∧ chunks.flatten = garbage ++ stream
      ∧ (d.pushAll chunks).1 = [⟨.h264, 0, 1, [9]⟩] ∧ (d.pushAll chunks).2.skipped = 11 := by
  intro d garbage stream chunks
  have hd : d.pending = [] := rfl
  have hstream : UnitAt stream 0 := by decide
  have hfirst : ∀ n < garbage.length, ¬ UnitAt (garbage ++ stream) n := by decide
  have hchunks : chunks.flatten = garbage ++ stream := rfl
  obtain ⟨hunits, hstate⟩ := pushAll_garbage_append hd hstream hfirst hchunks
  refine ⟨hd, hstream, hfirst, hchunks, hunits.trans (by decide +kernel), ?_⟩
  rw [hstate]
  decide +kernel

end Demuxer
end SipStills.ProgramStream
