/-
# Reading written program streams

A demuxer undoes `encodeStream`: of each pack with video it makes one access unit, whatever the
bytes of the payloads look like.

A written unit that is pushed on its own is one portion (`push_unit`), so that each kind of unit
has one lemma that says what pushing it does: `push_plain`, `push_map`, `push_video`,
`push_header`, `push_endCode`.  By `push_append` they add up to what a list of units does and to
what a pack does (`push_pack`).  The access unit of a pack is given out only by the next header,
by the end code or by `finish`; the induction over the packs is therefore about the unit in
progress together with those that are still to come (`push_encodeStream`).
-/
import SipStills.Proofs.ProgramStream.Chunking
import SipStills.Proofs.ProgramStream.Front
import SipStills.Proofs.ProgramStream.StreamMap

namespace SipStills.ProgramStream

/-! ### Written units as portions -/

lemma bytes_sized (id : UInt8) (content : Bytes) :
    startCode id ++ Bytes.ofWord content.length ++ content
      = 0 :: 0 :: 1 :: id :: UInt8.ofNat (content.length / 256) :: UInt8.ofNat content.length
        :: content := rfl

lemma length_sized (id : UInt8) (content : Bytes) :
    (startCode id ++ Bytes.ofWord content.length ++ content).length = 6 + content.length := by
  simp only [bytes_sized, List.length_cons]
  omega

/-- Both bytes of the length field and what they announce are there. -/
lemma holds_sized (content : Bytes) (high low : UInt8) :
    Bytes.holds (6 + content.length - 4) (high :: low :: content) = true := by
  rw [Bytes.holds_iff, List.length_cons, List.length_cons]
  omega

/-- A written unit that is neither a pack header nor video is known by its code alone. -/
lemma portion_sized {id : UInt8} {content : Bytes} (hid : systemId ≤ id)
    (hvideo : isVideoId id = false) (hlen : content.length < 65536) :
    portion (startCode id ++ Bytes.ofWord content.length ++ content)
      = if id = mapId then .map (6 + content.length) else .other (6 + content.length) := by
  obtain ⟨hEnd, hPack⟩ := ne_of_systemId_le hid
  rw [bytes_sized, portion_startCode]
  simp only [unitPortion, if_neg hEnd, if_neg hPack, hvideo, Bool.false_eq_true, if_false,
    if_pos hid, Bytes.word_ofWord _ hlen, holds_sized, if_true]

lemma PlainUnit.portion_encode {u : PlainUnit} (h : u.WellFormed) :
    portion u.encode = .other u.encode.length := by
  obtain ⟨hid, hmap, hvideo, hlen⟩ := h
  rw [encode, portion_sized hid hvideo hlen, if_neg hmap, length_sized]

lemma StreamMap.portion_encode {m : StreamMap} (h : m.WellFormed) :
    portion m.encode = .map m.encode.length := by
  rw [encode, portion_sized (by decide) (by decide) h.2, if_pos rfl, length_sized]

lemma VideoPacket.length_content (p : VideoPacket) :
    p.content.length = 3 + p.optional.length + p.payload.length := by
  simp only [content, List.length_cons, List.length_append]
  omega

/-- The payload stands at the end of a written video packet. -/
lemma VideoPacket.encode_eq_append (p : VideoPacket) :
    ∃ front, p.encode = front ++ p.payload :=
  ⟨startCode p.id ++ Bytes.ofWord p.content.length
    ++ p.flags.1 :: p.flags.2 :: UInt8.ofNat p.optional.length :: p.optional, by
    simp [encode, content]⟩

/-- The header of a written video packet ends where its payload begins. -/
lemma VideoPacket.portion_encode {p : VideoPacket} (h : p.WellFormed) :
    portion p.encode = .video p.encode.length (p.encode.length - p.payload.length) := by
  obtain ⟨hvideo, hopt, hlen⟩ := h
  obtain ⟨hEnd, hPack⟩ := ne_of_systemId_le (systemId_le_of_isVideoId hvideo)
  have hcontent := p.length_content
  have hheader : videoHeaderLength + (UInt8.ofNat p.optional.length).toNat
      = 6 + p.content.length - p.payload.length := by
    rw [UInt8.toNat_ofNat_of_lt' hopt, videoHeaderLength]
    omega
  have hbyte : p.content = p.flags.1 :: p.flags.2 :: UInt8.ofNat p.optional.length
      :: (p.optional ++ p.payload) := rfl
  have hholds := holds_sized p.content (UInt8.ofNat (p.content.length / 256))
    (UInt8.ofNat p.content.length)
  rw [encode, length_sized, bytes_sized, portion_startCode]
  simp only [unitPortion, if_neg hEnd, if_neg hPack, if_pos hvideo]
  rw [hbyte] at hholds ⊢
  simp only [← hbyte, Bytes.word_ofWord _ hlen, hheader] at hholds ⊢
  rw [if_pos hholds, if_neg (by omega)]

lemma Pack.length_header {p : Pack} (h : p.WellFormed) :
    p.header.length = packLength + p.stuffing.length := by
  have hclock := h.1
  simp only [header, startCode, List.length_append, List.length_cons, List.length_nil, hclock,
    packLength]
  omega

lemma Pack.portion_header {p : Pack} (h : p.WellFormed) :
    portion p.header = .pack p.header.length := by
  obtain ⟨hclock, hstuffing, -⟩ := id h
  have hbytes : p.header = 0 :: 0 :: 1 :: packId
      :: (p.clock ++ UInt8.ofNat (p.reserved * 8 + p.stuffing.length) :: p.stuffing) := by
    simp [header, startCode]
  have hdrop : (p.clock ++ UInt8.ofNat (p.reserved * 8 + p.stuffing.length) :: p.stuffing).drop 9
      = UInt8.ofNat (p.reserved * 8 + p.stuffing.length) :: p.stuffing := by
    rw [← hclock, List.drop_left]
  have hmod : (UInt8.ofNat (p.reserved * 8 + p.stuffing.length)).toNat % 8
      = p.stuffing.length := by
    rw [UInt8.toNat_ofNat']
    omega
  have hholds : Bytes.holds (packLength + p.stuffing.length - 4)
      (p.clock ++ UInt8.ofNat (p.reserved * 8 + p.stuffing.length) :: p.stuffing) = true := by
    rw [Bytes.holds_iff, List.length_append, List.length_cons, hclock, packLength]
    omega
  rw [length_header h, hbytes, portion_startCode]
  simp only [unitPortion, if_neg (show ¬ packId = endCodeId by decide), if_pos, hdrop, hmod,
    if_pos hholds]

namespace Demuxer

variable {d : Demuxer}

/-! ### Pushing one unit -/

lemma settled_of_pending_nil (hd : d.pending = []) : d.Settled := by
  rw [Settled, hd]
  rfl

lemma pending_feed_of_nil (hd : d.pending = []) (bytes : Bytes) :
    (d.feed bytes).pending = bytes := by
  rw [pending_feed, hd, List.nil_append]

lemma feed_clear (hd : d.pending = []) (bytes : Bytes) :
    { d.feed bytes with pending := [] } = d := by
  cases d
  simp_all [feed]

/-- A unit that is pushed on its own is taken off at once. -/
lemma push_unit {u : Bytes} {p : Portion} (hd : d.pending = []) (hp : portion u = p)
    (hne : p ≠ .incomplete) (hsize : p.size = u.length) :
    d.push u
      = (((d.feed u).absorb p).1.toList, { ((d.feed u).absorb p).2 with pending := [] }) := by
  have hpending := pending_feed_of_nil hd u
  have hportion : portion (d.feed u).pending = p := by rw [hpending, hp]
  have hadvance : (d.feed u).advance
      = (((d.feed u).absorb p).1, { ((d.feed u).absorb p).2 with pending := [] }) := by
    simp only [advance, hpending, hp, hsize, List.drop_length]
  have hsettled : Settled { ((d.feed u).absorb p).2 with pending := [] } := rfl
  rw [push_eq_drain_feed, drain_eq_of_ne (by rwa [hportion]), hadvance, hsettled.drain_eq,
    List.append_nil]

lemma push_plain (hd : d.pending = []) {u : PlainUnit} (h : u.WellFormed) :
    d.push u.encode = ([], d) := by
  rw [push_unit hd (PlainUnit.portion_encode h) Portion.noConfusion rfl]
  exact congrArg (Prod.mk []) (feed_clear hd _)

lemma push_map (hd : d.pending = []) {m : StreamMap} (h : m.WellFormed) :
    d.push m.encode = ([], d.announce (announced m.encode)) := by
  rw [push_unit hd (StreamMap.portion_encode h) Portion.noConfusion rfl]
  simp only [absorb, pending_feed_of_nil hd, List.take_length]
  exact congrArg (fun e => ([], e.announce (announced m.encode))) (feed_clear hd _)

lemma push_video (hd : d.pending = []) {p : VideoPacket} (h : p.WellFormed) :
    d.push p.encode = ([], d.extend p.payload p.payload.length) := by
  obtain ⟨front, hfront⟩ := p.encode_eq_append
  have hlen : p.encode.length = front.length + p.payload.length := by
    rw [hfront, List.length_append]
  have hheader : p.encode.length - p.payload.length = front.length := by omega
  have hannounced : p.encode.length - front.length = p.payload.length := by omega
  rw [push_unit hd (VideoPacket.portion_encode h) Portion.noConfusion rfl]
  simp only [absorb, pending_feed_of_nil hd, List.take_length, hheader, hannounced]
  rw [hfront, List.drop_left]
  exact congrArg (fun e => ([], e.extend p.payload p.payload.length)) (feed_clear hd _)

/-- A pack header and an end code give out the unit in progress. -/
lemma push_flush (hd : d.pending = []) {u : Bytes} {p : Portion} (hp : portion u = p)
    (hne : p ≠ .incomplete) (hsize : p.size = u.length)
    (hflush : (d.feed u).absorb p = (d.feed u).flush) :
    d.push u = (d.flush.1.toList, d.flush.2) := by
  rw [push_unit hd hp hne hsize, hflush, flush_feed]
  exact congrArg (Prod.mk _) (feed_clear (by rw [pending_flush, hd]) _)

lemma push_header (hd : d.pending = []) {p : Pack} (h : p.WellFormed) :
    d.push p.header = (d.flush.1.toList, d.flush.2) :=
  push_flush hd (Pack.portion_header h) Portion.noConfusion rfl rfl

lemma push_endCode (hd : d.pending = []) :
    d.push (startCode endCodeId) = (d.flush.1.toList, d.flush.2) :=
  push_flush hd (p := .endCode) rfl Portion.noConfusion rfl rfl

/-! ### Pushing a pack -/

/-- The demuxer with other streams announced. -/
def tune (d : Demuxer) (codec : CodecId) (audio : Option UInt8) : Demuxer := { d with codec, audio }

/-- The units before the video change the announced streams only. -/
lemma push_front {units : List FrontUnit} (hd : d.pending = [])
    (h : ∀ u ∈ units, u.WellFormed) :
    ∃ audio, d.push (units.flatMap FrontUnit.encode)
      = ([], d.tune (((units.filterMap FrontUnit.video?).getLast?).getD d.codec) audio) := by
  induction units generalizing d with
  | nil => exact ⟨d.audio, push_nil_of_settled (settled_of_pending_nil hd)⟩
  | cons u units ih =>
    obtain ⟨hu, hunits⟩ := List.forall_mem_cons.1 h
    rw [List.flatMap_cons, push_append]
    cases u with
    | plain u =>
      obtain ⟨audio, hpush⟩ := ih hd hunits
      refine ⟨audio, ?_⟩
      rw [FrontUnit.encode, push_plain hd hu, hpush]
      rfl
    | map m =>
      have hd' : (d.announce (announced m.encode)).pending = [] := hd
      obtain ⟨audio, hpush⟩ := ih hd' hunits
      refine ⟨audio, ?_⟩
      rw [FrontUnit.encode, push_map hd hu, hpush, StreamMap.announced_encode hu]
      -- the last of all announcements is the last of the others, if there is one
      have hvideo : (FrontUnit.map m).video?
          = (m.entries.filterMap StreamEntry.video?).getLast? := rfl
      rw [List.filterMap_cons, hvideo]
      cases (m.entries.filterMap StreamEntry.video?).getLast? with
      | none => rfl
      | some codec =>
        simp only [List.getLast?_cons, Option.getD_some]
        rfl

lemma extend_extend (d : Demuxer) (xs ys : Bytes) (m n : Nat) :
    (d.extend xs m).extend ys n = d.extend (xs ++ ys) (m + n) := by
  simp only [extend, List.append_assoc, Nat.add_assoc]

/-- The video of a pack is collected, and nothing else of its body. -/
lemma push_body {units : List BodyUnit} (hd : d.pending = []) (h : ∀ u ∈ units, u.WellFormed) :
    d.push (units.flatMap BodyUnit.encode)
      = ([], d.extend (units.flatMap BodyUnit.payload)
          (units.flatMap BodyUnit.payload).length) := by
  induction units generalizing d with
  | nil =>
    rw [List.flatMap_nil, push_nil_of_settled (settled_of_pending_nil hd)]
    simp [extend]
  | cons u units ih =>
    obtain ⟨hu, hunits⟩ := List.forall_mem_cons.1 h
    rw [List.flatMap_cons, push_append]
    cases u with
    | plain u =>
      rw [BodyUnit.encode, push_plain hd hu, ih hd hunits]
      rfl
    | video p =>
      have hd' : (d.extend p.payload p.payload.length).pending = [] := hd
      rw [BodyUnit.encode, push_video hd hu, ih hd' hunits, extend_extend, List.flatMap_cons,
        List.length_append]
      rfl

/-- The demuxer after the body of a pack that was pushed in state `d`. -/
def collecting (d : Demuxer) (p : Pack) (audio : Option UInt8) : Demuxer :=
  (d.flush.2.tune (p.codecAfter d.codec) audio).extend p.video p.video.length

@[simp] lemma payload_collecting (d : Demuxer) (p : Pack) (audio : Option UInt8) :
    (d.collecting p audio).payload = p.video := by
  simp [collecting, extend, tune]

@[simp] lemma expected_collecting (d : Demuxer) (p : Pack) (audio : Option UInt8) :
    (d.collecting p audio).expected = p.video.length := by
  simp [collecting, extend, tune]

/-- A pack gives out the unit that was in progress and collects its own; the end code gives
that out as well. -/
lemma push_pack {p : Pack} (hd : d.pending = []) (h : p.WellFormed) :
    ∃ audio, d.push p.encode
      = if p.ended then
          (d.flush.1.toList ++ (d.collecting p audio).flush.1.toList,
            (d.collecting p audio).flush.2)
        else (d.flush.1.toList, d.collecting p audio) := by
  have hd₁ : d.flush.2.pending = [] := by rw [pending_flush, hd]
  obtain ⟨audio, hfront⟩ := push_front hd₁ h.2.2.1
  have htune : d.flush.2.push (p.front.flatMap FrontUnit.encode)
      = ([], d.flush.2.tune (p.codecAfter d.codec) audio) := by
    rw [hfront, codec_flush]
    rfl
  have hbody : (d.flush.2.tune (p.codecAfter d.codec) audio).push (p.body.flatMap BodyUnit.encode)
      = ([], d.collecting p audio) := push_body hd₁ h.2.2.2
  have hcollecting : (d.collecting p audio).pending = [] := hd₁
  refine ⟨audio, ?_⟩
  rw [Pack.encode, push_append, push_append, push_append, push_header hd h]
  simp only [htune, hbody, List.append_nil]
  split
  · rw [push_endCode hcollecting]
  · rw [push_nil_of_settled (settled_of_pending_nil hcollecting), List.append_nil]

/-! ### Pushing a stream -/

lemma finish_of_pending_nil (hd : d.pending = []) : d.finish = d.flush := by
  have hclear : { d with pending := [] } = d := by
    cases d
    simp_all
  rw [finish, hd, hclear]
  rfl

lemma flush_of_payload_nil (h : d.payload = []) : d.flush = (none, { d with expected := 0 }) := by
  rw [flush, if_pos h]

/-- The number of units up to and including those of a pack. -/
def indexAfter (n : Nat) (p : Pack) : Nat := if p.video = [] then n else n + 1

/-- The unit that is collected is the first of those that the packs have. -/
lemma accessUnits_cons {n : Nat} (hn : d.flush.2.nextIndex = UInt32.ofNat n) (p : Pack)
    (packs : List Pack) (audio : Option UInt8) :
    accessUnits d.codec n (p :: packs)
      = (d.collecting p audio).flush.1.toList
        ++ accessUnits (p.codecAfter d.codec) (indexAfter n p) packs := by
  have hindex : (d.collecting p audio).nextIndex = UInt32.ofNat n := hn
  have hcodec : (d.collecting p audio).codec = p.codecAfter d.codec := rfl
  simp only [accessUnits, indexAfter, flush, payload_collecting]
  split
  · rfl
  · simp only [hcodec, hindex, expected_collecting, Option.toList_some, List.singleton_append]

lemma nextIndex_flush_collecting {n : Nat} (hn : d.flush.2.nextIndex = UInt32.ofNat n) (p : Pack)
    (audio : Option UInt8) :
    (d.collecting p audio).flush.2.nextIndex = UInt32.ofNat (indexAfter n p) := by
  have hindex : (d.collecting p audio).nextIndex = UInt32.ofNat n := hn
  simp only [indexAfter, flush, payload_collecting]
  split
  · exact hindex
  · simp only [hindex, UInt32.ofNat_add]
    rfl

/-- The unit in progress and those of the packs to come; `n` units come before the packs. -/
lemma push_encodeStream {packs : List Pack} {n : Nat} (hd : d.pending = [])
    (h : ∀ p ∈ packs, p.WellFormed) (hn : d.flush.2.nextIndex = UInt32.ofNat n) :
    (d.push (encodeStream packs)).1 ++ (d.push (encodeStream packs)).2.finish.1.toList
        = d.flush.1.toList ++ accessUnits d.codec n packs
      ∧ (d.push (encodeStream packs)).2.finish.2.skipped = d.skipped := by
  induction packs generalizing d n with
  | nil =>
    have hpush : d.push (encodeStream []) = ([], d) :=
      push_nil_of_settled (settled_of_pending_nil hd)
    simp only [hpush, finish_of_pending_nil hd, accessUnits, List.append_nil, List.nil_append,
      skipped_flush, and_self]
  | cons p packs ih =>
    obtain ⟨hp, hpacks⟩ := List.forall_mem_cons.1 h
    obtain ⟨audio, hpush⟩ := push_pack hd hp
    have hindex := nextIndex_flush_collecting hn p audio
    have hclear : (d.collecting p audio).pending = [] := by
      rw [← hd]
      exact pending_flush d
    have hskipped : (d.collecting p audio).skipped = d.skipped := skipped_flush d
    have hcodec : (d.collecting p audio).codec = p.codecAfter d.codec := rfl
    have hstream : encodeStream (p :: packs) = p.encode ++ encodeStream packs := rfl
    rw [hstream, push_append, hpush, accessUnits_cons hn p packs audio]
    split
    · -- the end code gives out the unit of the pack, and none is in progress behind it
      have hclear' : (d.collecting p audio).flush.2.pending = [] := by rw [pending_flush, hclear]
      have hnone := flush_of_payload_nil (payload_flush (d.collecting p audio))
      obtain ⟨hunits, hskip⟩ := ih hclear' hpacks (n := indexAfter n p) (by rw [hnone, hindex])
      rw [hnone, Option.toList_none, List.nil_append, codec_flush, hcodec] at hunits
      rw [skipped_flush, hskipped] at hskip
      exact ⟨by rw [List.append_assoc, hunits, List.append_assoc], hskip⟩
    · obtain ⟨hunits, hskip⟩ := ih hclear hpacks hindex
      rw [hskipped] at hskip
      exact ⟨by rw [List.append_assoc, hunits, hcodec], hskip⟩

end Demuxer

/-- Access units are numbered in their order, and all that they announce is there. -/
lemma accessUnits_getElem {packs : List Pack} {codec : CodecId} {n i : Nat} {u : AccessUnit}
    (h : (accessUnits codec n packs)[i]? = some u) :
    u.index = UInt32.ofNat (n + i) ∧ u.remaining = 0 := by
  induction packs generalizing codec n i with
  | nil => simp [accessUnits] at h
  | cons p packs ih =>
    simp only [accessUnits] at h
    split at h
    · exact ih h
    · cases i with
      | zero =>
        obtain rfl := Option.some.inj h
        exact ⟨rfl, Nat.sub_self _⟩
      | succ i =>
        rw [List.getElem?_cons_succ] at h
        have := ih h
        rwa [Nat.add_assoc, Nat.add_comm 1 i] at this

/-- A fresh demuxer to which a written stream is pushed, and which is then finished, has given
out the access units of the stream, numbered from zero and complete, and has skipped nothing. -/
theorem push_finish_encodeStream (codec : CodecId) {packs : List Pack}
    (h : ∀ p ∈ packs, p.WellFormed) :
    let pushed := (Demuxer.withCodec codec).push (encodeStream packs)
    let units := pushed.1 ++ pushed.2.finish.1.toList
    units = accessUnits codec 0 packs
      ∧ (∀ i u, units[i]? = some u → u.index = UInt32.ofNat i ∧ u.remaining = 0)
      ∧ pushed.2.finish.2.skipped = 0 := by
  intro pushed units
  obtain ⟨hunits, hskipped⟩ := Demuxer.push_encodeStream (d := .withCodec codec) (n := 0) rfl h rfl
  have hall : units = accessUnits codec 0 packs := hunits
  refine ⟨hall, fun i u hu => ?_, hskipped⟩
  rw [hall] at hu
  simpa using accessUnits_getElem hu

/-- A pack with one video packet whose payload looks like an end code, behind a map that
announces H.264. -/
def imitatingPack : Pack where
  clock := [0x44, 0, 4, 0, 4, 1, 0, 0, 3]
  reserved := 31
  stuffing := [0xFF, 0xFF]
  front := [.plain ⟨systemId, []⟩, .map ⟨(0xE0, 0xFF), [7], [⟨0x1B, 0xE0, [1, 2]⟩], [0, 0, 0, 0]⟩]
  body := [.video ⟨0xE0, (0x80, 0), [], [0, 0, 1, 0xB9]⟩, .plain ⟨0xC0, [9]⟩]
  ended := false

theorem push_finish_encodeStream_imitating :
    (∀ p ∈ [imitatingPack, { imitatingPack with body := [] }], p.WellFormed)
      ∧ (let pushed := (Demuxer.withCodec .mpeg4).push
          (encodeStream [imitatingPack, { imitatingPack with body := [] }])
        pushed.1 ++ pushed.2.finish.1.toList = [⟨.h264, 0, 4, [0, 0, 1, 0xB9]⟩]
          ∧ pushed.2.finish.2.skipped = 0) := by
  have h : ∀ p ∈ [imitatingPack, { imitatingPack with body := [] }], p.WellFormed := by
    simp [imitatingPack, Pack.WellFormed, FrontUnit.WellFormed, BodyUnit.WellFormed,
      PlainUnit.WellFormed, StreamMap.WellFormed, VideoPacket.WellFormed, StreamMap.content,
      StreamMap.list, StreamEntry.encode, VideoPacket.content, Bytes.ofWord]
    decide
  have hunits := push_finish_encodeStream .mpeg4 h
  exact ⟨h, hunits.1.trans (by decide), hunits.2.2⟩

end SipStills.ProgramStream
