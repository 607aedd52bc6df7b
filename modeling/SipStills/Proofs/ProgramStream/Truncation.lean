/-
# Streams that are cut off

What a demuxer gives out of a stream that was cut off is the beginning of what it gives out of the
whole stream: only the last unit, which `finish` gives out, may be shorter than it would have been,
and it announces no more than the whole one does (`cut_shortens_last_only`).

Up to the next pack header the unit in progress only grows: payloads and announced lengths are
added to it and nothing is taken away (`exists_growsTo_of_drain`).  `finish` looks at a packet that
was cut off by rules of its own; `VideoFront` says when both it and `portion` take bytes for the
front of a video packet, and that they then read the same lengths from it.

The length of the missing part is reported if some of the packet's payload has arrived.  A packet
that was cut right behind its header is not taken into account at all (`remaining_of_cut_packet`),
though all that it announces is missing (`header_alone_not_counted`).
-/
import SipStills.Proofs.ProgramStream.Front
import SipStills.Proofs.ProgramStream.Units

namespace SipStills.ProgramStream

/-! ### What `finish` adds -/

namespace Demuxer

/-- `finish` adds what has arrived of the payload, if any of it has. -/
lemma salvage_of_videoFront {bytes : Bytes} {n header : Nat} (h : VideoFront bytes n header)
    (d : Demuxer) :
    d.salvage bytes
      = if header ≤ n ∧ header < bytes.length then
          d.extend ((bytes.take n).drop header) (n - header)
        else d := by
  obtain ⟨id, high, low, a, b, optional, rest, rfl, hid, rfl, rfl⟩ := h
  cases rest with
  | nil =>
    -- with the nine fixed bytes alone there can be no payload
    have hlen : ¬ videoHeaderLength + optional.toNat
        < [0, 0, 1, id, high, low, a, b, optional].length := by
      simp only [videoHeaderLength, List.length_cons, List.length_nil]
      omega
    rw [if_neg fun hle => hlen hle.2]
    rfl
  | cons c rest => simp only [salvage, hid, true_and]

/-- `finish` adds nothing unless the bytes go on behind the header of a video packet. -/
lemma salvage_eq_self {bytes : Bytes}
    (h : ∀ n header, VideoFront bytes n header → header ≤ n → ¬ header < bytes.length)
    (d : Demuxer) : d.salvage bytes = d := by
  unfold salvage
  split
  · rename_i id high low a b optional c rest
    dsimp only
    split
    · rename_i hcond
      obtain ⟨hid, hheader, hlt⟩ := hcond
      exact absurd hlt
        (h _ _ ⟨id, high, low, a, b, optional, c :: rest, rfl, hid, rfl, rfl⟩ hheader)
    · rfl
  · rfl

/-- Either the pending bytes are a video packet that was cut off in its payload, and `finish` adds
what has arrived of it, or `finish` adds nothing. -/
lemma salvage_pending_cases {d : Demuxer} (h : d.Settled) :
    (∃ n header, VideoFront d.pending n header ∧ header < d.pending.length
        ∧ d.pending.length < n
        ∧ salvage { d with pending := [] } d.pending
          = extend { d with pending := [] } (d.pending.drop header) (n - header))
      ∨ (∀ n header, VideoFront d.pending n header → d.pending.length ≤ header)
        ∧ salvage { d with pending := [] } d.pending = { d with pending := [] } := by
  by_cases hadds : ∃ n header, VideoFront d.pending n header ∧ header < d.pending.length
  · obtain ⟨n, header, hfront, hheader⟩ := hadds
    have hcut := hfront.length_lt h
    refine .inl ⟨n, header, hfront, hheader, hcut, ?_⟩
    rw [salvage_of_videoFront hfront, if_pos ⟨by omega, hheader⟩,
      List.take_of_length_le (Nat.le_of_lt hcut)]
  · refine .inr ⟨fun n header hfront => ?_, salvage_eq_self (fun n header hfront _ hlt => ?_) _⟩
    · exact Nat.le_of_not_lt fun hlt => hadds ⟨n, header, hfront, hlt⟩
    · exact hadds ⟨n, header, hfront, hlt⟩

end Demuxer

/-! ### The unit in progress -/

/-- `v` is what `u` has become with more bytes. -/
structure AccessUnit.GrowsTo (u v : AccessUnit) : Prop where
  index_eq : v.index = u.index
  data_prefix : u.data <+: v.data
  expected_le : u.expected ≤ v.expected

lemma AccessUnit.GrowsTo.refl (u : AccessUnit) : u.GrowsTo u :=
  ⟨rfl, List.prefix_refl _, Nat.le_refl _⟩

lemma AccessUnit.GrowsTo.trans {u v w : AccessUnit} (huv : u.GrowsTo v) (hvw : v.GrowsTo w) :
    u.GrowsTo w :=
  ⟨hvw.index_eq.trans huv.index_eq, huv.data_prefix.trans hvw.data_prefix,
    Nat.le_trans huv.expected_le hvw.expected_le⟩

namespace Demuxer

lemma growsTo_extend (d : Demuxer) {payload more : Bytes} {announced : Nat}
    (h : payload <+: more) :
    (d.extend payload announced).current.GrowsTo (d.extend more announced).current :=
  ⟨rfl, (List.prefix_append_right_inj d.payload).2 h, Nat.le_refl _⟩

lemma current_growsTo_extend (d : Demuxer) (payload : Bytes) (announced : Nat) :
    d.current.GrowsTo (d.extend payload announced).current :=
  ⟨rfl, List.prefix_append _ _, Nat.le_add_right _ _⟩

lemma current_growsTo_salvage (d : Demuxer) (bytes : Bytes) :
    d.current.GrowsTo (d.salvage bytes).current := by
  obtain ⟨payload, announced, -, heq⟩ := exists_salvage_eq d bytes
  rw [heq]
  exact current_growsTo_extend d payload announced

lemma payload_extend_drop_ne_nil (d : Demuxer) {bytes : Bytes} {n : Nat} (h : n < bytes.length)
    (announced : Nat) : (d.extend (bytes.drop n) announced).payload ≠ [] := by
  have hdrop : bytes.drop n ≠ [] := by
    rw [ne_eq, List.drop_eq_nil_iff]
    omega
  exact List.append_ne_nil_of_right_ne_nil _ hdrop

lemma payload_ne_nil_of_growsTo {d e : Demuxer} (hd : d.payload ≠ [])
    (h : d.current.GrowsTo e.current) : e.payload ≠ [] := by
  intro he
  have hprefix : d.payload <+: e.payload := h.data_prefix
  rw [he, List.prefix_nil] at hprefix
  exact hd hprefix

/-- Taking a portion off gives the unit in progress out, or lets it grow. -/
lemma advance_growsTo (d : Demuxer) :
    d.advance.1 = d.flush.1 ∨ d.advance.1 = none ∧ d.current.GrowsTo d.advance.2.current := by
  simp only [advance]
  cases portion d.pending with
  | incomplete | garbage n | other n => exact .inr ⟨rfl, .refl _⟩
  | pack n | endCode => exact .inl rfl
  | map n => exact .inr ⟨rfl, rfl, List.prefix_refl _, Nat.le_refl _⟩
  | video n header => exact .inr ⟨rfl, current_growsTo_extend d _ _⟩

/-- A unit in progress that holds data is the next to be given out, perhaps after it has grown. -/
lemma exists_growsTo_of_drain {d : Demuxer} (h : d.payload ≠ []) :
    ∃ v, (d.drain.1 ++ d.drain.2.finish.1.toList)[0]? = some v ∧ d.current.GrowsTo v := by
  fun_induction drain d with
  | case1 d hp =>
    have hgrow : d.current.GrowsTo (salvage { d with pending := [] } d.pending).current :=
      current_growsTo_salvage { d with pending := [] } d.pending
    have hne := payload_ne_nil_of_growsTo h hgrow
    refine ⟨_, ?_, hgrow⟩
    rw [finish, flush_of_payload_ne_nil hne]
    rfl
  | case2 d hp r hlt rest ih =>
    rcases advance_growsTo d with hflush | ⟨hnone, hgrow⟩
    · refine ⟨d.current, ?_, .refl _⟩
      rw [hflush, flush_of_payload_ne_nil h]
      rfl
    · obtain ⟨v, hv, hgrow'⟩ := ih (payload_ne_nil_of_growsTo h hgrow)
      refine ⟨v, ?_, hgrow.trans hgrow'⟩
      rw [hnone, Option.toList_none, List.nil_append]
      exact hv

/-! ### Packets that are cut off -/

/-- Where some of a packet's payload has arrived, `finish` gives out the unit in progress with that
part of it. -/
lemma finish_of_cut {d : Demuxer} {n header : Nat} (hfront : VideoFront d.pending n header)
    (hheader : header < d.pending.length) (hcut : d.pending.length < n) :
    d.finish.1 = some (d.extend (d.pending.drop header) (n - header)).current := by
  have hsalvage : salvage { d with pending := [] } d.pending
      = extend { d with pending := [] } (d.pending.drop header) (n - header) := by
    rw [salvage_of_videoFront hfront, if_pos ⟨by omega, hheader⟩,
      List.take_of_length_le (Nat.le_of_lt hcut)]
  rw [finish, hsalvage, flush_of_payload_ne_nil (payload_extend_drop_ne_nil _ hheader _)]
  rfl

/-- Once the whole packet has arrived, the unit in progress with its payload is the next to be given
out. -/
lemma exists_growsTo_of_video {d : Demuxer} {n header : Nat}
    (h : portion d.pending = .video n header) (hn : n ≤ d.pending.length) (hheader : header < n) :
    ∃ v, (d.drain.1 ++ d.drain.2.finish.1.toList)[0]? = some v
      ∧ (d.extend ((d.pending.take n).drop header) (n - header)).current.GrowsTo v := by
  have hne : portion d.pending ≠ .incomplete := by
    rw [h]
    exact Portion.noConfusion
  have hnone : d.advance.1 = none := by
    simp only [advance, h]
    rfl
  have hpayload : d.advance.2.payload ≠ [] := by
    simp only [advance, h]
    exact payload_extend_drop_ne_nil d (by rw [List.length_take]; omega) _
  have hcurrent : d.advance.2.current
      = (d.extend ((d.pending.take n).drop header) (n - header)).current := by
    simp only [advance, h]
    rfl
  obtain ⟨v, hv, hgrow⟩ := exists_growsTo_of_drain hpayload
  rw [hcurrent] at hgrow
  refine ⟨v, ?_, hgrow⟩
  rw [drain_eq_of_ne hne, hnone, Option.toList_none, List.nil_append]
  exact hv

/-- With more bytes the part of a packet that has arrived is the beginning of what is added. -/
lemma exists_growsTo_of_cut {d : Demuxer} {n header : Nat} (hfront : VideoFront d.pending n header)
    (hheader : header < d.pending.length) (hcut : d.pending.length < n) (more : Bytes) :
    ∃ v, ((d.push more).1 ++ (d.push more).2.finish.1.toList)[0]? = some v
      ∧ (d.extend (d.pending.drop header) (n - header)).current.GrowsTo v := by
  have hfront' : VideoFront (d.feed more).pending n header := hfront.append more
  have hpending : (d.feed more).pending = d.pending ++ more := rfl
  have hlength : (d.feed more).pending.length = d.pending.length + more.length := by
    rw [hpending, List.length_append]
  rw [push_eq_drain_feed]
  by_cases hn : n ≤ (d.feed more).pending.length
  · -- the packet has arrived, and its whole payload is added
    have hportion : portion (d.feed more).pending = .video n header := by
      rw [hfront'.portion_eq, if_pos hn, if_neg (by omega)]
    have hprefix : d.pending.drop header <+: ((d.feed more).pending.take n).drop header := by
      rw [hpending, List.take_append, List.take_of_length_le (Nat.le_of_lt hcut),
        List.drop_append_of_le_length (Nat.le_of_lt hheader)]
      exact List.prefix_append _ _
    obtain ⟨v, hv, hgrow⟩ := exists_growsTo_of_video hportion hn (by omega)
    exact ⟨v, hv, (growsTo_extend d hprefix).trans hgrow⟩
  · -- the packet is still cut off, but further on
    have hsettled : (d.feed more).Settled := by
      rw [Settled, hfront'.portion_eq, if_neg hn]
    have hprefix : d.pending.drop header <+: (d.feed more).pending.drop header := by
      rw [hpending, List.drop_append_of_le_length (Nat.le_of_lt hheader)]
      exact List.prefix_append _ _
    refine ⟨_, ?_, growsTo_extend d hprefix⟩
    rw [hsettled.drain_eq, List.nil_append, finish_of_cut hfront' (by omega) (by omega)]
    rfl

/-- What `finish` gives out of the bytes so far is what would have come next with more of them,
perhaps longer. -/
lemma exists_growsTo_of_finish {d : Demuxer} (h : d.Settled) (more : Bytes) {u : AccessUnit}
    (hu : u ∈ d.finish.1) :
    ∃ v, ((d.push more).1 ++ (d.push more).2.finish.1.toList)[0]? = some v ∧ u.GrowsTo v := by
  rcases salvage_pending_cases h with ⟨n, header, hfront, hheader, hcut, -⟩ | ⟨-, hself⟩
  · rw [finish_of_cut hfront hheader hcut] at hu
    obtain rfl := Option.some.inj hu
    exact exists_growsTo_of_cut hfront hheader hcut more
  · -- nothing is added: the unit is the one in progress
    rw [finish, hself] at hu
    obtain ⟨hne, rfl⟩ := mem_flush_iff.1 hu
    exact exists_growsTo_of_drain (d := d.feed more) hne

/-- What is given out of a stream that was cut off, compared with what is given out of the whole
stream: the units that `push` gives out are the first of those of the whole stream, and a unit that
`finish` gives out has the place and the index of one of them, begins its data, and announces no
more. -/
theorem cut_shortens_last_only (codec : CodecId) (s t : Bytes) :
    let cut := (withCodec codec).push s
    let whole := (withCodec codec).push (s ++ t)
    let units := whole.1 ++ whole.2.finish.1.toList
    cut.1 <+: units
      ∧ ∀ u ∈ cut.2.finish.1, ∃ v, units[cut.1.length]? = some v
        ∧ v.index = u.index ∧ u.data <+: v.data ∧ u.expected ≤ v.expected := by
  intro cut whole units
  have hwhole : whole = (cut.1 ++ (cut.2.push t).1, (cut.2.push t).2) := push_append _ s t
  have hunits : units = cut.1 ++ ((cut.2.push t).1 ++ (cut.2.push t).2.finish.1.toList) := by
    simp only [units, hwhole, List.append_assoc]
  rw [hunits]
  refine ⟨List.prefix_append _ _, fun u hu => ?_⟩
  obtain ⟨v, hv, hgrow⟩ := exists_growsTo_of_finish (settled_drain _) t hu
  refine ⟨v, ?_, hgrow.index_eq, hgrow.data_prefix, hgrow.expected_le⟩
  rw [List.getElem?_append_right (Nat.le_refl _), Nat.sub_self]
  exact hv

/-- The stream is cut in the payload of its second packet; with the rest of the payload and an end
code behind it the unit is complete. -/
theorem cut_shortens_last_only_in_payload :
    let s : Bytes :=
      [0, 0, 1, 0xE0, 0, 4, 0x80, 0, 0, 7, 0, 0, 1, 0xE0, 0, 6, 0x80, 0, 0, 8]
    let t : Bytes := [9, 9, 0, 0, 1, 0xB9]
    let units := ((withCodec .h264).push (s ++ t)).1
      ++ ((withCodec .h264).push (s ++ t)).2.finish.1.toList
    ((withCodec .h264).push s).2.finish.1 = some ⟨.h264, 0, 4, [7, 8]⟩
      ∧ units = [⟨.h264, 0, 4, [7, 8, 9, 9]⟩]
      ∧ ∃ v, units[0]? = some v ∧ v.index = 0 ∧ [7, 8] <+: v.data ∧ 4 ≤ v.expected := by
  intro s t units
  have hcut : ((withCodec .h264).push s).2.finish.1 = some ⟨.h264, 0, 4, [7, 8]⟩ := by
    decide +kernel
  have hunits : units = [⟨.h264, 0, 4, [7, 8, 9, 9]⟩] := by decide +kernel
  have hnone : ((withCodec .h264).push s).1.length = 0 := by decide +kernel
  obtain ⟨v, hv, hrest⟩ := (cut_shortens_last_only .h264 s t).2 _ hcut
  rw [hnone] at hv
  exact ⟨hcut, hunits, v, hv, hrest⟩

/-! ### The missing part of a packet -/

lemma Reachable.level {d : Demuxer} (h : d.Reachable) : d.Level := by
  induction h with
  | start codec => exact level_withCodec codec
  | push chunk _ ih => exact (ih.push chunk).1
  | finish _ _ => exact level_flush _

/-- A packet that was cut off.  If some of its payload has arrived, `finish` gives out a unit that
misses exactly the bytes of the packet that have not; its data and what it misses are what this
packet and the ones before announce.  If none has, the packet is not taken into account. -/
theorem remaining_of_cut_packet {d : Demuxer} (h : d.Reachable) {n header : Nat}
    (hfront : VideoFront d.pending n header) (hcut : d.pending.length < n) :
    (header < d.pending.length →
        ∃ u, d.finish.1 = some u ∧ u.remaining = n - d.pending.length
          ∧ u.data.length + u.remaining = d.expected + (n - header))
      ∧ (d.pending.length ≤ header →
        ∀ u ∈ d.finish.1, u.remaining = 0 ∧ u.data.length + u.remaining = d.expected) := by
  have hlevel : d.expected = d.payload.length := h.level
  constructor
  · intro hheader
    refine ⟨_, finish_of_cut hfront hheader hcut, ?_, ?_⟩ <;>
    · simp only [AccessUnit.remaining, current, extend, List.length_append, List.length_drop]
      omega
  · intro hheader u hu
    have hself : salvage { d with pending := [] } d.pending = { d with pending := [] } := by
      rw [salvage_of_videoFront hfront, if_neg (by omega)]
    rw [finish, hself] at hu
    obtain ⟨-, rfl⟩ := mem_flush_iff.1 hu
    simp only [AccessUnit.remaining, current]
    omega

/-- Five of the eight bytes that two packets announce have not arrived, and `finish` says so. -/
theorem remaining_of_cut_packet_in_payload :
    let d := ((withCodec .h264).push
      [0, 0, 1, 0xE0, 0, 4, 0x80, 0, 0, 7, 0, 0, 1, 0xE0, 0, 12, 0x80, 0, 2, 0, 0, 8, 9]).2
    d.Reachable ∧ VideoFront d.pending 18 11 ∧ d.pending.length < 18 ∧ 11 < d.pending.length
      ∧ ∃ u, d.finish.1 = some u ∧ u.remaining = 5 ∧ u.data.length + u.remaining = 8 := by
  intro d
  have hreachable : d.Reachable := (Reachable.start .h264).push _
  have hpending : d.pending = [0, 0, 1, 0xE0, 0, 12, 0x80, 0, 2, 0, 0, 8, 9] := by
    decide +kernel
  have hfront : VideoFront d.pending 18 11 :=
    ⟨0xE0, 0, 12, 0x80, 0, 2, [0, 0, 8, 9], hpending, by decide, by decide, by decide⟩
  have hlength : d.pending.length = 13 := by rw [hpending]; rfl
  have hexpected : d.expected = 1 := by decide +kernel
  obtain ⟨u, hu, hremaining, hannounced⟩ :=
    (remaining_of_cut_packet hreachable hfront (by omega)).1 (by omega)
  exact ⟨hreachable, hfront, by omega, by omega, u, hu, by omega, by omega⟩

/-- Of a packet that was cut right behind its header, after another packet of its unit, five bytes
have not arrived, but the unit is given out as if none were missing. -/
theorem header_alone_not_counted :
    let d := ((withCodec .h264).push
      [0, 0, 1, 0xE0, 0, 4, 0x80, 0, 0, 7, 0, 0, 1, 0xE0, 0, 8, 0x80, 0, 0]).2
    d.Reachable ∧ VideoFront d.pending 14 9 ∧ 9 ≤ d.pending.length ∧ d.pending.length < 14
      ∧ 14 - d.pending.length = 5
      ∧ ∃ u, d.finish.1 = some u ∧ u.remaining = 0 ∧ u.data.length + u.remaining = 1 := by
  intro d
  have hpending : d.pending = [0, 0, 1, 0xE0, 0, 8, 0x80, 0, 0] := by decide +kernel
  have hfront : VideoFront d.pending 14 9 :=
    ⟨0xE0, 0, 8, 0x80, 0, 0, [], hpending, by decide, by decide, by decide⟩
  have hlength : d.pending.length = 9 := by rw [hpending]; rfl
  have hfinish : d.finish.1 = some ⟨.h264, 0, 1, [7]⟩ := by decide +kernel
  exact ⟨(Reachable.start .h264).push _, hfront, by omega, by omega, by omega, _, hfinish, rfl, rfl⟩

end Demuxer
end SipStills.ProgramStream
