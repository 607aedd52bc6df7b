/-
# What a demuxer carries along

Three things in the state of a demuxer are kept without being looked at: the audio type announced
last, the number of the next access unit, and the count of skipped bytes.  They are its past
(`Past`).  A demuxer with a past gives out the same access units as one without, numbered from where
its past ends, and what is left of its past can be told apart from what has come since
(`pushAll_after`, `finish_after`).

The past is never read, so each operation has one lemma that moves it to the end, and these add up
along a run of the demuxer as the operations do.
-/
import SipStills.Proofs.ProgramStream.Chunking

namespace SipStills.ProgramStream

/-- What a demuxer keeps without looking at it. -/
structure Past where
  /-- The type of the audio stream announced last. -/
  audio : Option UInt8 := none
  /-- The number of access units given out; it wraps around. -/
  units : UInt32 := 0
  /-- The number of bytes skipped. -/
  skipped : Nat := 0

/-- The unit as it is numbered after `n` others. -/
def AccessUnit.numberedAfter (u : AccessUnit) (n : UInt32) : AccessUnit :=
  { u with index := n + u.index }

lemma AccessUnit.map_numberedAfter_zero (units : List AccessUnit) :
    units.map (·.numberedAfter 0) = units := by
  simp [numberedAfter]

namespace Demuxer

/-- The past of a demuxer. -/
def past (d : Demuxer) : Past := ⟨d.audio, d.nextIndex, d.skipped⟩

/-- The demuxer as it would be if all that it has done came after the given past. -/
def after (d : Demuxer) (p : Past) : Demuxer :=
  { d with
    audio := d.audio <|> p.audio
    nextIndex := p.units + d.nextIndex
    skipped := p.skipped + d.skipped }

variable (d : Demuxer) (p : Past)

@[simp] lemma pending_after : (d.after p).pending = d.pending := rfl

lemma after_skipped (n : Nat) : d.after { skipped := n } = { d with skipped := d.skipped + n } := by
  simp [after, Nat.add_comm]

lemma feed_after (more : Bytes) : (d.after p).feed more = (d.feed more).after p := rfl

/-- A map that names no audio type leaves the one of the past. -/
lemma announce_after (a : Announcement) : (d.after p).announce a = (d.announce a).after p := by
  simp [announce, after, Option.or_assoc]

lemma flush_after :
    (d.after p).flush
      = (d.flush.1.map (·.numberedAfter p.units), d.flush.2.after p) := by
  by_cases h : d.payload = []
  · simp [flush, h, after]
  · simp [flush, h, after, AccessUnit.numberedAfter, UInt32.add_assoc]

lemma absorb_after (portion : Portion) :
    (d.after p).absorb portion
      = ((d.absorb portion).1.map (·.numberedAfter p.units), (d.absorb portion).2.after p) := by
  cases portion with
  | incomplete | other n => rfl
  | garbage n => simp [absorb, after, Nat.add_assoc]
  | pack n | endCode => exact d.flush_after p
  | map n => simp [absorb, announce_after]
  | video n header => rfl

lemma advance_after :
    (d.after p).advance
      = (d.advance.1.map (·.numberedAfter p.units), d.advance.2.after p) := by
  simp only [advance, pending_after, absorb_after]
  rfl

lemma drain_after :
    (d.after p).drain
      = (d.drain.1.map (·.numberedAfter p.units), d.drain.2.after p) := by
  fun_induction drain d with
  | case1 d h => exact Settled.drain_eq (d := d.after p) h
  | case2 d h hlt r rest ih =>
    have hne : portion (d.after p).pending ≠ .incomplete := h
    rw [drain_eq_of_ne hne, advance_after, ih, List.map_append, Option.toList_map]

lemma push_after (chunk : Bytes) :
    (d.after p).push chunk
      = ((d.push chunk).1.map (·.numberedAfter p.units), (d.push chunk).2.after p) := by
  rw [push_eq_drain_feed, feed_after, drain_after, push_eq_drain_feed]

lemma pushAll_after (chunks : List Bytes) :
    (d.after p).pushAll chunks
      = ((d.pushAll chunks).1.map (·.numberedAfter p.units), (d.pushAll chunks).2.after p) := by
  induction chunks generalizing d with
  | nil => rfl
  | cons chunk chunks ih => simp only [pushAll, push_after, ih, List.map_append]

lemma salvage_after (bytes : Bytes) : (d.after p).salvage bytes = (d.salvage bytes).after p := by
  unfold salvage
  split
  · dsimp only
    split <;> rfl
  · rfl

lemma finish_after :
    (d.after p).finish
      = (d.finish.1.map (·.numberedAfter p.units), d.finish.2.after p) := by
  have hclear : { d.after p with pending := [] } = after { d with pending := [] } p := rfl
  rw [finish, pending_after, hclear, salvage_after, flush_after]
  rfl

end Demuxer
end SipStills.ProgramStream
