/-
# Cutting a program stream into chunks

A demuxer gives out the same access units, and ends in the same state, however its input is cut
into chunks.

The proof compares draining before and after bytes are added.  `feed` adds bytes behind the
pending ones without looking at them, so that a push is a `feed` and a `drain`.  A unit at the
front that can be taken off before bytes are added can be taken off after
(`advance_feed`).  Garbage is different: without a start code its portion grows with the bytes
that are added, so the same bytes are skipped in pieces.  For these `drain_skip` says that any
part of the gap may be skipped first.

* `push_drain`: draining before a push changes nothing;
* `push_append`: pushing `xs ++ ys` is pushing `xs` and then `ys`;
* `pushAll_eq_push_flatten`: the same for any list of chunks.
-/
import SipStills.Proofs.ProgramStream.Portion
import SipStills.ProgramStream.Demuxer

namespace SipStills.ProgramStream.Demuxer

/-! ### What is left at the end -/

@[simp] lemma payload_flush (d : Demuxer) : d.flush.2.payload = [] := by
  unfold flush
  split
  · assumption
  · rfl

@[simp] lemma expected_flush (d : Demuxer) : d.flush.2.expected = 0 := by
  unfold flush
  split <;> rfl

@[simp] lemma codec_flush (d : Demuxer) : d.flush.2.codec = d.codec := by
  unfold flush
  split <;> rfl

@[simp] lemma skipped_flush (d : Demuxer) : d.flush.2.skipped = d.skipped := by
  unfold flush
  split <;> rfl

@[simp] lemma extend_nil (d : Demuxer) : d.extend [] 0 = d := by
  simp [extend]

/-- What is added at the end is no longer than what is announced for it; it may be nothing. -/
lemma exists_salvage_eq (d : Demuxer) (bytes : Bytes) :
    ∃ payload announced, payload.length ≤ announced
      ∧ d.salvage bytes = d.extend payload announced := by
  have hnothing : ∃ payload announced, payload.length ≤ announced
      ∧ d = d.extend payload announced := ⟨[], 0, Nat.le_refl 0, d.extend_nil.symm⟩
  unfold salvage
  split
  · dsimp only
    split
    · refine ⟨_, _, ?_, rfl⟩
      rw [List.length_drop, List.length_take]
      omega
    · exact hnothing
  · exact hnothing

@[simp] lemma pending_finish (d : Demuxer) : d.finish.2.pending = [] := by
  obtain ⟨payload, announced, -, heq⟩ := exists_salvage_eq { d with pending := [] } d.pending
  rw [finish, heq, pending_flush]
  rfl

@[simp] lemma codec_finish (d : Demuxer) : d.finish.2.codec = d.codec := by
  obtain ⟨payload, announced, -, heq⟩ := exists_salvage_eq { d with pending := [] } d.pending
  rw [finish, heq, codec_flush]
  rfl

/-! ### States between two calls -/

/-- The states that a demuxer can be in between two calls. -/
inductive Reachable : Demuxer → Prop where
  /-- A demuxer starts without any bytes. -/
  | start (codec : CodecId) : Reachable (withCodec codec)
  /-- A chunk is pushed. -/
  | push {d : Demuxer} (chunk : Bytes) : Reachable d → Reachable (d.push chunk).2
  /-- The unit in progress is asked for. -/
  | finish {d : Demuxer} : Reachable d → Reachable d.finish.2

/-- The pending bytes are too few to tell what comes next. -/
def Settled (d : Demuxer) : Prop := portion d.pending = .incomplete

lemma Settled.drain_eq {d : Demuxer} (h : d.Settled) : d.drain = ([], d) := by
  have hp : portion d.pending = .incomplete := h
  rw [drain, dif_pos hp]

lemma drain_eq_of_ne {d : Demuxer} (h : portion d.pending ≠ .incomplete) :
    d.drain = (d.advance.1.toList ++ d.advance.2.drain.1, d.advance.2.drain.2) := by
  rw [drain, dif_neg h]

/-- Draining takes every portion that can be taken. -/
lemma settled_drain (d : Demuxer) : d.drain.2.Settled := by
  fun_induction drain d with
  | case1 d h => exact h
  | case2 d h r hlt rest ih => exact ih

lemma Reachable.settled {d : Demuxer} (h : d.Reachable) : d.Settled := by
  cases h with
  | start codec => rfl
  | push chunk _ => exact settled_drain _
  | finish _ => simp [Settled, portion]

/-! ### Taking portions off while bytes are added -/

/-- Adds bytes behind the pending ones. -/
def feed (d : Demuxer) (more : Bytes) : Demuxer := { d with pending := d.pending ++ more }

@[simp] lemma pending_feed (d : Demuxer) (more : Bytes) :
    (d.feed more).pending = d.pending ++ more := rfl

@[simp] lemma feed_nil (d : Demuxer) : d.feed [] = d := by
  simp [feed]

@[simp] lemma feed_feed (d : Demuxer) (xs ys : Bytes) :
    (d.feed xs).feed ys = d.feed (xs ++ ys) := by
  simp [feed]

lemma push_eq_drain_feed (d : Demuxer) (chunk : Bytes) : d.push chunk = (d.feed chunk).drain := rfl

@[simp] lemma push_nil_of_settled {d : Demuxer} (h : d.Settled) : d.push [] = ([], d) := by
  rw [push_eq_drain_feed, feed_nil, h.drain_eq]

lemma flush_feed (d : Demuxer) (more : Bytes) :
    (d.feed more).flush = (d.flush.1, d.flush.2.feed more) := by
  unfold flush
  split <;> rename_i h <;> simp only [feed] at h
  · rw [if_pos h]
    rfl
  · rw [if_neg h]
    rfl

/-- What a portion does does not depend on bytes behind it. -/
lemma absorb_feed {d : Demuxer} {p : Portion} (more : Bytes) (h : p.size ≤ d.pending.length) :
    (d.feed more).absorb p = ((d.absorb p).1, (d.absorb p).2.feed more) := by
  cases p with
  | incomplete | garbage | other => rfl
  | pack | endCode => exact flush_feed d more
  | map n | video n header =>
    have hn : n ≤ d.pending.length := h
    simp only [absorb, pending_feed, List.take_append_of_le_length hn]
    rfl

/-- A unit at the front is taken off in the same way before and after bytes are added. -/
lemma advance_feed {d : Demuxer} (more : Bytes) (hs : StartAt d.pending 0)
    (h : portion d.pending ≠ .incomplete) :
    (d.feed more).advance = (d.advance.1, d.advance.2.feed more) := by
  have hsize := portion_size_le d.pending
  simp only [advance, pending_feed, portion_append more hs h, absorb_feed more hsize,
    List.drop_append_of_le_length hsize]
  rfl

/-! ### Skipping in pieces -/

/-- Skips the first `n` pending bytes. -/
def skip (d : Demuxer) (n : Nat) : Demuxer :=
  { d with pending := d.pending.drop n, skipped := d.skipped + n }

@[simp] lemma pending_skip (d : Demuxer) (n : Nat) : (d.skip n).pending = d.pending.drop n := rfl

@[simp] lemma skip_zero (d : Demuxer) : d.skip 0 = d := rfl

lemma skip_skip (d : Demuxer) (m n : Nat) : (d.skip m).skip n = d.skip (m + n) := by
  simp [skip, Nat.add_assoc]

lemma skip_feed {d : Demuxer} {n : Nat} (more : Bytes) (h : n ≤ d.pending.length) :
    (d.feed more).skip n = (d.skip n).feed more := by
  simp [skip, feed, List.drop_append_of_le_length h]

lemma advance_of_not_startAt {d : Demuxer} (h4 : 4 ≤ d.pending.length)
    (hs : ¬ StartAt d.pending 0) : d.advance = (none, d.skip (gap d.pending)) := by
  simp only [advance, portion_of_not_startAt h4 hs]
  rfl

lemma drain_skip_gap (d : Demuxer) : (d.skip (gap d.pending)).drain = d.drain := by
  by_cases h0 : gap d.pending = 0
  · rw [h0, skip_zero]
  · have hgap := le_gap_iff.1 (Nat.le_refl (gap d.pending))
    have h4 : 4 ≤ d.pending.length := by omega
    have hs : ¬ StartAt d.pending 0 := fun hs => h0 (gap_eq_zero_of_startAt hs)
    have hne : portion d.pending ≠ .incomplete := by
      rw [portion_of_not_startAt h4 hs]
      exact Portion.noConfusion
    rw [drain_eq_of_ne hne, advance_of_not_startAt h4 hs]
    rfl

/-- Any part of the gap may be skipped first. -/
lemma drain_skip {d : Demuxer} {n : Nat} (h : n ≤ gap d.pending) :
    (d.skip n).drain = d.drain := by
  calc (d.skip n).drain
      = ((d.skip n).skip (gap (d.skip n).pending)).drain := (drain_skip_gap (d.skip n)).symm
    _ = (d.skip (gap d.pending)).drain := by
        rw [pending_skip, gap_drop h, skip_skip, Nat.add_sub_cancel' h]
    _ = d.drain := drain_skip_gap d

/-! ### Chunks -/

/-- The portion at the front may be taken off before a push. -/
lemma push_advance {d : Demuxer} (more : Bytes) (h : portion d.pending ≠ .incomplete) :
    d.push more
      = (d.advance.1.toList ++ (d.advance.2.push more).1, (d.advance.2.push more).2) := by
  by_cases hs : StartAt d.pending 0
  · -- a unit stands at the front, and it stands there after the push as well
    have hne : portion (d.feed more).pending ≠ .incomplete := by
      rwa [pending_feed, portion_append more hs h]
    rw [push_eq_drain_feed, drain_eq_of_ne hne, advance_feed more hs h]
    rfl
  · -- the portion is part of the gap that is there after the push
    have h4 : 4 ≤ d.pending.length := by
      by_contra hlt
      exact h (portion_of_length_lt (by omega))
    have hgap := gap_le_gap_append d.pending more
    rw [advance_of_not_startAt h4 hs, push_eq_drain_feed, ← drain_skip hgap,
      skip_feed more (gap_le_length d.pending)]
    rfl

/-- Draining before a push changes nothing. -/
lemma push_drain (d : Demuxer) (more : Bytes) :
    d.push more = (d.drain.1 ++ (d.drain.2.push more).1, (d.drain.2.push more).2) := by
  fun_induction drain d with
  | case1 d h => rfl
  | case2 d h r hlt rest ih => rw [push_advance more h, ih, List.append_assoc]

/-- Pushing two chunks one after the other is pushing both at once. -/
lemma push_append (d : Demuxer) (xs ys : Bytes) :
    d.push (xs ++ ys)
      = ((d.push xs).1 ++ ((d.push xs).2.push ys).1, ((d.push xs).2.push ys).2) := by
  rw [push_eq_drain_feed d (xs ++ ys), ← feed_feed, ← push_eq_drain_feed, push_drain]
  rfl

lemma pushAll_eq_of_settled {d : Demuxer} (h : d.Settled) (chunks : List Bytes) :
    d.pushAll chunks = d.push chunks.flatten := by
  induction chunks generalizing d with
  | nil => rw [List.flatten_nil, push_nil_of_settled h, pushAll]
  | cons chunk chunks ih =>
    have hnext : (d.push chunk).2.Settled := settled_drain _
    rw [List.flatten_cons, push_append, pushAll, ih hnext]

/-- Chunks pushed one after the other give the access units, and lead to the state, of all their
bytes pushed at once; so what `finish` gives out afterwards is the same as well. -/
theorem pushAll_eq_push_flatten {d : Demuxer} (h : d.Reachable) (chunks : List Bytes) :
    d.pushAll chunks = d.push chunks.flatten
      ∧ (d.pushAll chunks).2.finish = (d.push chunks.flatten).2.finish := by
  have heq := pushAll_eq_of_settled h.settled chunks
  exact ⟨heq, by rw [heq]⟩

/-- A start code in three pieces behind a byte of garbage. -/
theorem pushAll_eq_push_flatten_cut :
    ((withCodec .h264).push [0x12, 0]).2.Reachable
      ∧ ((withCodec .h264).push [0x12, 0]).2.pushAll [[0], [], [1, 0xB9]]
        = ((withCodec .h264).push [0x12, 0]).2.push [0, 1, 0xB9]
      ∧ (((withCodec .h264).push [0x12, 0]).2.push [0, 1, 0xB9]).2.skipped = 1 :=
  ⟨.push _ (.start _), (pushAll_eq_push_flatten (.push _ (.start _)) [[0], [], [1, 0xB9]]).1,
    by decide +kernel⟩

end SipStills.ProgramStream.Demuxer
