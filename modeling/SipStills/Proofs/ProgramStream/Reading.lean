/-
# The video that a demuxer gives out

Along a run nothing of the video that arrives is lost, nothing is given out twice, and nothing is
made up.  The bytes that are pushed are read from the front, one unit after the other; the payloads
of the video packets come out of this, and the rest waits (`Reads`).  `finish` drops the bytes that
wait; of a packet that it cuts off the part of the payload that has arrived comes out (`Collects`).
Neither relation speaks of how the demuxer looks for units: by `Front` they say what the bytes are.

On the side of the demuxer an account is kept between two states (`Keeps`): the unit in progress and
the video that arrives make up the units that are given out and the unit that is in progress then.
Each portion that is taken off is the front of what there is to read (`exists_reads_advance`), so
draining reads the pending bytes and keeps the account (`exists_reads_drain`), and so do a call and
a run (`exists_collects_run`).  The bytes that come out are some of those that went in, in their
order (`Collects.sublist`).
-/
import SipStills.Proofs.ProgramStream.Runs
import SipStills.Proofs.ProgramStream.Truncation

open scoped List

namespace SipStills.ProgramStream

/-! ### Reading bytes -/

/-- Read from the front, the bytes hold these video payloads; the rest of the bytes waits. -/
inductive Reads : Bytes → List Bytes → Bytes → Prop where
  | wait {bytes : Bytes} (hfront : Front bytes .incomplete) : Reads bytes [] bytes
  | garbage {bytes rest : Bytes} {n : Nat} {payloads : List Bytes}
      (hfront : Front bytes (.garbage n)) (hrest : Reads (bytes.drop n) payloads rest) :
      Reads bytes payloads rest
  | plain {bytes rest : Bytes} {p : Portion} {payloads : List Bytes} (hplain : p.isPlain = true)
      (hfront : Front bytes p) (hrest : Reads (bytes.drop p.size) payloads rest) :
      Reads bytes payloads rest
  | video {bytes rest : Bytes} {n header : Nat} {payloads : List Bytes}
      (hfront : Front bytes (.video n header)) (hrest : Reads (bytes.drop n) payloads rest) :
      Reads bytes ((bytes.take n).drop header :: payloads) rest

/-- What is read is taken from the bytes in order, and so is what waits. -/
lemma Reads.sublist {bytes rest : Bytes} {payloads : List Bytes} (h : Reads bytes payloads rest) :
    payloads.flatten ++ rest <+ bytes := by
  induction h with
  | wait hfront => exact .refl _
  | garbage hfront hrest ih => exact ih.trans (List.drop_sublist _ _)
  | plain hplain hfront hrest ih => exact ih.trans (List.drop_sublist _ _)
  | @video bytes rest n header payloads hfront hrest ih =>
    have hpayload : (bytes.take n).drop header <+ bytes.take n := List.drop_sublist _ _
    calc ((bytes.take n).drop header :: payloads).flatten ++ rest
        = (bytes.take n).drop header ++ (payloads.flatten ++ rest) := by
          rw [List.flatten_cons, List.append_assoc]
      _ <+ bytes.take n ++ bytes.drop n := hpayload.append ih
      _ = bytes := List.take_append_drop n bytes

/-- Where bytes wait and then the calls are made, these video payloads come in, the last of those
that a `finish` cuts off in part; at the end the rest waits. -/
inductive Collects : Bytes → List Call → List Bytes → Bytes → Prop where
  | done (rest : Bytes) : Collects rest [] [] rest
  /-- The chunk comes behind the bytes that wait. -/
  | push {rest chunk rest' last : Bytes} {payloads video : List Bytes} {calls : List Call}
      (hreads : Reads (rest ++ chunk) payloads rest') (hcalls : Collects rest' calls video last) :
      Collects rest (.push chunk :: calls) (payloads ++ video) last
  /-- A packet is cut off in its payload: what has arrived of it is the last of this stream. -/
  | cut {rest last : Bytes} {n header : Nat} {video : List Bytes} {calls : List Call}
      (hfront : VideoFront rest n header) (hheader : header < rest.length) (hcut : rest.length < n)
      (hcalls : Collects [] calls video last) :
      Collects rest (.finish :: calls) (rest.drop header :: video) last
  /-- No payload has arrived of what waits. -/
  | drop {rest last : Bytes} {video : List Bytes} {calls : List Call}
      (hnone : ∀ n header, VideoFront rest n header → rest.length ≤ header)
      (hcalls : Collects [] calls video last) : Collects rest (.finish :: calls) video last

/-- What comes in is taken from the bytes in order, and so is what waits at the end. -/
lemma Collects.sublist {rest last : Bytes} {calls : List Call} {video : List Bytes}
    (h : Collects rest calls video last) :
    video.flatten ++ last <+ rest ++ calls.flatMap Call.bytes := by
  induction h with
  | done rest => exact List.sublist_append_left rest []
  | @push rest chunk rest' last payloads video calls hreads hcalls ih =>
    calc (payloads ++ video).flatten ++ last
        = payloads.flatten ++ (video.flatten ++ last) := by
          rw [List.flatten_append, List.append_assoc]
      _ <+ payloads.flatten ++ (rest' ++ calls.flatMap Call.bytes) := ih.append_left _
      _ = payloads.flatten ++ rest' ++ calls.flatMap Call.bytes := (List.append_assoc ..).symm
      _ <+ rest ++ chunk ++ calls.flatMap Call.bytes := hreads.sublist.append_right _
      _ = rest ++ (Call.push chunk :: calls).flatMap Call.bytes := List.append_assoc ..
  | @cut rest last n header video calls hfront hheader hcut hcalls ih =>
    have hpart : rest.drop header <+ rest := List.drop_sublist header rest
    calc (rest.drop header :: video).flatten ++ last
        = rest.drop header ++ (video.flatten ++ last) := by
          rw [List.flatten_cons, List.append_assoc]
      _ <+ rest ++ (Call.finish :: calls).flatMap Call.bytes := hpart.append ih
  | drop hnone hcalls ih => exact ih.trans (List.sublist_append_right _ _)

namespace Demuxer

/-! ### The account of the video -/

/-- From `d` to `d'` the given video arrives and the given units are given out: they and the unit in
progress in `d'` hold the video behind what the unit in progress in `d` holds. -/
def Keeps (d : Demuxer) (video : Bytes) (units : List AccessUnit) (d' : Demuxer) : Prop :=
  d.payload ++ video = units.flatMap AccessUnit.data ++ d'.payload

lemma Keeps.trans {d e f : Demuxer} {video more : Bytes} {units later : List AccessUnit}
    (h : Keeps d video units e) (h' : Keeps e more later f) :
    Keeps d (video ++ more) (units ++ later) f := by
  have hfirst : d.payload ++ video = units.flatMap AccessUnit.data ++ e.payload := h
  have hsecond : e.payload ++ more = later.flatMap AccessUnit.data ++ f.payload := h'
  calc d.payload ++ (video ++ more)
      = units.flatMap AccessUnit.data ++ (e.payload ++ more) := by
        rw [← List.append_assoc, hfirst, List.append_assoc]
    _ = (units ++ later).flatMap AccessUnit.data ++ f.payload := by
        rw [hsecond, List.flatMap_append, List.append_assoc]

lemma keeps_of_payload_eq {d d' : Demuxer} (h : d'.payload = d.payload) : Keeps d [] [] d' := by
  rw [Keeps, h, List.append_nil, List.flatMap_nil, List.nil_append]

lemma keeps_flush (d : Demuxer) : Keeps d [] d.flush.1.toList d.flush.2 := by
  by_cases h : d.payload = []
  · rw [flush, if_pos h]
    exact keeps_of_payload_eq rfl
  · rw [flush, if_neg h]
    simp [Keeps]

lemma Keeps.flush {d e : Demuxer} {video : Bytes} (h : Keeps d video [] e) :
    Keeps d video e.flush.1.toList e.flush.2 := by
  have hflush := h.trans (keeps_flush e)
  rwa [List.append_nil, List.nil_append] at hflush

lemma keeps_extend (d : Demuxer) (payload : Bytes) (announced : Nat) :
    Keeps d payload [] (d.extend payload announced) := rfl

/-- What is taken off the pending bytes is the front of what there is to read, and the account is
kept of it. -/
lemma exists_reads_advance {d : Demuxer} (h : portion d.pending ≠ .incomplete) :
    ∃ first : List Bytes, Keeps d first.flatten d.advance.1.toList d.advance.2
      ∧ ∀ {payloads rest}, Reads d.advance.2.pending payloads rest →
        Reads d.pending (first ++ payloads) rest := by
  have hfront := front_portion d.pending
  simp only [advance]
  generalize portion d.pending = p at h hfront ⊢
  cases p with
  | incomplete => exact absurd rfl h
  | garbage n => exact ⟨[], keeps_of_payload_eq rfl, fun hrest => .garbage hfront hrest⟩
  | other n | map n => exact ⟨[], keeps_of_payload_eq rfl, fun hrest => .plain rfl hfront hrest⟩
  | pack n | endCode => exact ⟨[], keeps_flush d, fun hrest => .plain rfl hfront hrest⟩
  | video n header =>
    refine ⟨[(d.pending.take n).drop header], ?_, fun hrest => .video hfront hrest⟩
    rw [List.flatten_singleton]
    exact keeps_extend d _ (n - header)

/-- Draining reads the pending bytes. -/
lemma exists_reads_drain (d : Demuxer) :
    ∃ payloads, Reads d.pending payloads d.drain.2.pending
      ∧ Keeps d payloads.flatten d.drain.1 d.drain.2 := by
  fun_induction drain d with
  | case1 d h =>
    have hfront := front_portion d.pending
    rw [h] at hfront
    exact ⟨[], .wait hfront, keeps_of_payload_eq rfl⟩
  | case2 d h hlt r rest ih =>
    obtain ⟨first, hfirst, hreads⟩ := exists_reads_advance h
    obtain ⟨payloads, hrest, hkeeps⟩ := ih
    refine ⟨first ++ payloads, hreads hrest, ?_⟩
    rw [List.flatten_append]
    exact hfirst.trans hkeeps

/-- One call, whatever the calls behind it bring. -/
lemma exists_collects_answer {d : Demuxer} (h : d.Settled) (call : Call) :
    ∃ first : List Bytes, Keeps d first.flatten (d.answer call).1 (d.answer call).2
      ∧ ∀ {calls video last}, Collects (d.answer call).2.pending calls video last →
        Collects d.pending (call :: calls) (first ++ video) last := by
  cases call with
  | push chunk =>
    obtain ⟨payloads, hreads, hkeeps⟩ := exists_reads_drain (d.feed chunk)
    exact ⟨payloads, hkeeps, fun hcalls => .push hreads hcalls⟩
  | finish =>
    have hpending : (d.answer .finish).2.pending = [] := pending_finish d
    rw [hpending]
    rcases salvage_pending_cases h with ⟨n, header, hfront, hheader, hcut, hadds⟩ | ⟨hnone, hself⟩
    · have hkeeps : Keeps d [d.pending.drop header].flatten []
          (salvage { d with pending := [] } d.pending) := by
        rw [hadds, List.flatten_singleton]
        exact keeps_extend d _ (n - header)
      exact ⟨[d.pending.drop header], hkeeps.flush, fun hcalls => .cut hfront hheader hcut hcalls⟩
    · have hkeeps : Keeps d [] [] (salvage { d with pending := [] } d.pending) := by
        rw [hself]
        exact keeps_of_payload_eq rfl
      exact ⟨[], hkeeps.flush, fun hcalls => .drop hnone hcalls⟩

/-- Along a run the video comes in that the bytes hold. -/
lemma exists_collects_run {d : Demuxer} (h : d.Reachable) (calls : List Call) :
    ∃ video, Collects d.pending calls video (d.run calls).2.pending
      ∧ Keeps d video.flatten ((d.run calls).1.flatMap Prod.snd) (d.run calls).2 := by
  induction calls generalizing d with
  | nil => exact ⟨[], .done _, keeps_of_payload_eq rfl⟩
  | cons call calls ih =>
    obtain ⟨first, hfirst, hcollects⟩ := exists_collects_answer h.settled call
    obtain ⟨video, hrest, hkeeps⟩ := ih (reachable_answer h call)
    refine ⟨first ++ video, hcollects hrest, ?_⟩
    rw [List.flatten_append]
    exact hfirst.trans hkeeps

/-- What holds of every run of a demuxer, whatever bytes it is given.  The length announced for the
unit in progress is the length of what it holds.  A unit that is given out has data, and no more
than announced; only of one that `finish` gives out may bytes be missing.  The units are numbered
from zero, and the numbers wrap around.  The units and the unit in progress hold one after the other
the video payloads that the bytes hold, whole but for the last before a `finish`; their bytes are
among those pushed, in the same order. -/
theorem run_accounts_for_video (codec : CodecId) (calls : List Call) :
    let r := (withCodec codec).run calls
    let units := r.1.flatMap Prod.snd
    r.2.expected = r.2.payload.length
      ∧ (∀ call us, (call, us) ∈ r.1 → ∀ u ∈ us,
          u.data ≠ [] ∧ u.data.length ≤ u.expected
            ∧ (call ≠ .finish → u.expected = u.data.length ∧ u.remaining = 0))
      ∧ (∀ k u, units[k]? = some u → u.index.toNat = k % UInt32.size)
      ∧ ∃ video, Collects [] calls video r.2.pending
          ∧ units.flatMap AccessUnit.data ++ r.2.payload = video.flatten
          ∧ video.flatten <+ calls.flatMap Call.bytes := by
  intro r units
  obtain ⟨hlevel, hlengths⟩ := (level_withCodec codec).run calls
  have hnumbers : Numbers (withCodec codec) units r.2 := numbers_run _ _
  obtain ⟨video, hcollects, hkeeps⟩ := exists_collects_run (.start codec) calls
  refine ⟨hlevel, fun call us hmem u hu => ?_, fun k u hu => ?_, video, hcollects, hkeeps.symm, ?_⟩
  · obtain ⟨hpart, hwhole⟩ := hlengths call us hmem u hu
    refine ⟨hpart.data_ne_nil, hpart.length_le, fun hne => ?_⟩
    exact ⟨(hwhole hne).expected_eq, (hwhole hne).remaining_eq⟩
  · have hzero : (withCodec codec).nextIndex = 0 := rfl
    rw [hnumbers.index_eq k u hu, hzero, UInt32.zero_add]
    exact UInt32.toNat_ofNat'
  · exact (List.sublist_append_left _ _).trans hcollects.sublist

/-- Two of the four bytes of a packet arrive before `finish`, and those behind belong to no unit;
the packet that follows is whole. -/
example :
    ((withCodec .h264).run
        [.push [0, 0, 1, 0xE0, 0, 7, 0x80, 0, 0, 7, 8], .finish,
          .push [9, 9, 0, 0, 1, 0xE0, 0, 4, 0x80, 0, 0, 6, 0, 0, 1, 0xB9]]).1.map Prod.snd
      = [[], [⟨.h264, 0, 4, [7, 8]⟩], [⟨.h264, 1, 1, [6]⟩]] := by decide +kernel

end Demuxer
end SipStills.ProgramStream
