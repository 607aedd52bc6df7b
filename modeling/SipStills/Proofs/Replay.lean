/-
# A replay does not depend on how the recording is read

`play` is the reading loop of a replay, for reads that give any number of bytes, and for a
cancellation that may be seen before any of them.  It raises the events of the pieces that were
read (`play_eq_events`), which are those that `recordedEvents` has for the same bytes taken at once
(`events_eq_recordedEvents`).  `Replay.run` is the loop for reads that fill their buffer
(`run_eq_play`).

What the events say about lengths is right because no unit holds more than it announces
(`length_data_le_of_mem_units`).
-/
import Mathlib.Data.List.Forall2
import SipStills.Proofs.ProgramStream.Units
import SipStills.Replay

namespace SipStills

open ProgramStream

/-- The event of an access unit: it has the unit's codec and bytes, and its numbers are those of
the unit, cut to thirty-two bits. -/
structure DecodeEvent.IsOf (callee : String) (u : AccessUnit) (e : DecodeEvent) : Prop where
  callee_eq : e.callee = callee
  codec_eq : e.codec = u.codec
  index_eq : e.index = u.index.toInt32
  payload_eq : e.payload = u.data
  total_eq : e.total = Int32.ofNat u.expected
  remaining_eq : e.remaining = e.total - Int32.ofNat e.payload.length

lemma DecodeEvent.isOf_ofAccessUnit (callee : String) {u : AccessUnit}
    (h : u.data.length ≤ u.expected) : (ofAccessUnit callee u).IsOf callee u where
  callee_eq := rfl
  codec_eq := rfl
  index_eq := rfl
  payload_eq := rfl
  total_eq := rfl
  remaining_eq := Int32.ofNat_sub _ _ h

namespace Replay

/-! ### The units of a recording -/

/-- The access units of a recording, the last of which may be cut off. -/
def units (recording : Bytes) : List AccessUnit :=
  let pushed := (Demuxer.withCodec .h264).push recording
  pushed.1 ++ pushed.2.finish.1.toList

/-- One event for each access unit. -/
def recordedEvents (callee : String) (recording : Bytes) : List DecodeEvent :=
  (units recording).map (DecodeEvent.ofAccessUnit callee)

lemma length_data_le_of_mem_units {recording : Bytes} :
    ∀ u ∈ units recording, u.data.length ≤ u.expected := by
  intro u hu
  obtain ⟨hlevel, hwhole⟩ := (Demuxer.level_withCodec .h264).push recording
  rcases List.mem_append.1 hu with hu | hu
  · exact Nat.le_of_eq (hwhole u hu).expected_eq.symm
  · exact hlevel.length_data_le_of_mem_finish (Option.mem_toList.1 hu)

lemma isOf_recordedEvents (callee : String) (recording : Bytes) :
    List.Forall₂ (DecodeEvent.IsOf callee) (units recording)
      (recordedEvents callee recording) := by
  rw [recordedEvents, List.forall₂_map_right_iff, List.forall₂_same]
  intro u hu
  exact DecodeEvent.isOf_ofAccessUnit callee (length_data_le_of_mem_units u hu)

/-- The pieces of a recording raise the events of the recording. -/
lemma events_eq_recordedEvents (callee : String) (pieces : List Bytes) :
    events callee pieces = recordedEvents callee pieces.flatten := by
  have hstart : (Demuxer.withCodec .h264).Settled := (Demuxer.Reachable.start .h264).settled
  rw [events, Demuxer.pushAll_eq_of_settled hstart]
  rfl

/-! ### Reading -/

/-- A file is read in these pieces, through a buffer of this size; size zero counts as one.  Every
read gives at least one byte until the file has ended, and may give less than fits. -/
structure ReadAs (size : Nat) (file : Bytes) (pieces : List Bytes) : Prop where
  flatten_eq : pieces.flatten = file
  ne_nil : ∀ piece ∈ pieces, piece ≠ []
  length_le : ∀ piece ∈ pieces, piece.length ≤ max size 1

/-- Reads may fill their buffer. -/
lemma readAs_chunks (size : Nat) (file : Bytes) : ReadAs size file (chunks size file) where
  flatten_eq := flatten_chunks size file
  ne_nil := by
    fun_induction chunks size file with
    | case1 => exact fun piece hpiece => absurd hpiece (by simp)
    | case2 a as ih => exact List.forall_mem_cons.2 ⟨List.cons_ne_nil _ _, ih⟩
  length_le := by
    fun_induction chunks size file with
    | case1 => exact fun piece hpiece => absurd hpiece (by simp)
    | case2 a as ih =>
      refine List.forall_mem_cons.2 ⟨?_, ih⟩
      simp only [List.length_cons, List.length_take]
      omega

/-- The reading loop, from the read of number `k` on: before each read it is seen whether the
replay was cancelled, and the events of what was read are raised at once. -/
def loop (callee : String) (cancelled : Nat → Bool) :
    Nat → Demuxer → List Bytes → List DecodeEvent × Demuxer
  | _, d, [] => ([], d)
  | k, d, piece :: pieces =>
    if cancelled k then ([], d)
    else
      let pushed := d.push piece
      let later := loop callee cancelled (k + 1) pushed.2 pieces
      (pushed.1.map (DecodeEvent.ofAccessUnit callee) ++ later.1, later.2)

/-- A replay of a recording that is read in these pieces: the reading loop, and behind it the unit
in progress. -/
def play (callee : String) (cancelled : Nat → Bool) (pieces : List Bytes) : List DecodeEvent :=
  let looped := loop callee cancelled 0 (.withCodec .h264) pieces
  looped.1 ++ looped.2.finish.1.toList.map (DecodeEvent.ofAccessUnit callee)

/-- The loop makes its reads until it is cancelled or the file ends, which is after `n` reads. -/
lemma loop_eq_pushAll (callee : String) {cancelled : Nat → Bool} {k n : Nat} {pieces : List Bytes}
    (hgoes : ∀ i < n, cancelled (k + i) = false)
    (hstops : pieces.length ≤ n ∨ cancelled (k + n) = true) (d : Demuxer) :
    loop callee cancelled k d pieces
      = ((d.pushAll (pieces.take n)).1.map (DecodeEvent.ofAccessUnit callee),
          (d.pushAll (pieces.take n)).2) := by
  induction pieces generalizing k n d with
  | nil => simp [loop, Demuxer.pushAll]
  | cons piece pieces ih =>
    cases n with
    | zero =>
      have hcancelled : cancelled k = true := by
        rcases hstops with hlength | hcancelled
        · exact absurd hlength (by simp)
        · exact hcancelled
      simp [loop, hcancelled, Demuxer.pushAll]
    | succ n =>
      have hread : cancelled k = false := hgoes 0 (Nat.succ_pos n)
      have hgoes' : ∀ i < n, cancelled (k + 1 + i) = false := by
        intro i hi
        rw [Nat.add_assoc, Nat.add_comm 1]
        exact hgoes (i + 1) (Nat.succ_lt_succ hi)
      have hstops' : pieces.length ≤ n ∨ cancelled (k + 1 + n) = true := by
        rw [Nat.add_assoc, Nat.add_comm 1]
        simpa using hstops
      simp only [loop, hread, Bool.false_eq_true, if_false, ih hgoes' hstops',
        List.take_succ_cons, Demuxer.pushAll, List.map_append]

/-- A replay raises the events of the pieces that were read. -/
lemma play_eq_events (callee : String) {cancelled : Nat → Bool} {n : Nat} {pieces : List Bytes}
    (hgoes : ∀ i < n, cancelled i = false) (hstops : pieces.length ≤ n ∨ cancelled n = true) :
    play callee cancelled pieces = events callee (pieces.take n) := by
  have hloop := loop_eq_pushAll callee (k := 0) (by simpa using hgoes) (by simpa using hstops)
    (Demuxer.withCodec .h264)
  rw [play, hloop, events, List.map_append]

/-- A replay as it is run fills its buffer with every read, and is cancelled before the read of the
given number. -/
lemma run_eq_play (settings : ReplaySettings) (file : Bytes) (readLimit : Option Nat) :
    run settings (some file) readLimit
      = .ok (play settings.callee (fun k => readLimit.any (· ≤ k)) (reads settings file)) := by
  cases readLimit with
  | none =>
    have hplay : play settings.callee (fun _ => false) (reads settings file)
        = events settings.callee ((reads settings file).take (reads settings file).length) :=
      play_eq_events settings.callee (fun _ _ => rfl) (.inl (Nat.le_refl _))
    rw [List.take_length] at hplay
    exact congrArg Except.ok hplay.symm
  | some n =>
    have hplay : play settings.callee (fun k => decide (n ≤ k)) (reads settings file)
        = events settings.callee ((reads settings file).take n) :=
      play_eq_events settings.callee (by simp) (.inr (by simp))
    exact congrArg Except.ok hplay.symm

end Replay

/-- Whatever the size of the buffer, and whatever part of it the reads fill, a replay raises the
same events: one for each access unit of the whole recording, in their order.  If it is cancelled
before a read, the events are those of what was read until then.  A replay as it is run is one of
these. -/
theorem replay_independent_of_reads {size : Nat} {file : Bytes} {pieces : List Bytes}
    (h : Replay.ReadAs size file pieces) (callee : String) :
    (∀ cancelled : Nat → Bool, (∀ i < pieces.length, cancelled i = false) →
        Replay.play callee cancelled pieces = Replay.recordedEvents callee file)
      ∧ (∀ (cancelled : Nat → Bool) (k : Nat), (∀ i < k, cancelled i = false) →
        cancelled k = true →
        Replay.play callee cancelled pieces
          = Replay.recordedEvents callee (pieces.take k).flatten)
      ∧ (∀ recording, List.Forall₂ (DecodeEvent.IsOf callee) (Replay.units recording)
        (Replay.recordedEvents callee recording))
      ∧ ∀ settings : ReplaySettings,
        Replay.ReadAs settings.chunkSize.toNat file (Replay.reads settings file)
          ∧ ∀ readLimit, Replay.run settings (some file) readLimit
            = .ok (Replay.play settings.callee (fun k => readLimit.any (· ≤ k))
                (Replay.reads settings file)) := by
  refine ⟨fun cancelled hgoes => ?_, fun cancelled k hgoes hcancelled => ?_,
    Replay.isOf_recordedEvents callee, fun settings => ⟨?_, ?_⟩⟩
  · rw [Replay.play_eq_events callee hgoes (.inl (Nat.le_refl _)), List.take_length,
      Replay.events_eq_recordedEvents, h.flatten_eq]
  · rw [Replay.play_eq_events callee hgoes (.inr hcancelled), Replay.events_eq_recordedEvents]
  · exact Replay.readAs_chunks _ file
  · exact Replay.run_eq_play settings file

/-- A video packet of two bytes, the end code, and a packet that is cut off behind the first of its
six bytes. -/
def cutOff : Bytes :=
  [0, 0, 1, 0xE0, 0, 5, 0x80, 0, 0, 0xAA, 0xBB, 0, 0, 1, 0xB9,
    0, 0, 1, 0xE0, 0, 9, 0x80, 0, 0, 0xCC]

/-- Short reads through a buffer of four bytes, of the whole recording and of its first ten
bytes. -/
theorem replay_independent_of_reads_cut_off :
    let pieces : List Bytes :=
      [[0, 0, 1], [0xE0, 0, 5, 0x80], [0, 0, 0xAA], [0xBB, 0], [0, 1, 0xB9, 0], [0],
        [1, 0xE0, 0, 9], [0x80, 0], [0, 0xCC]]
    Replay.ReadAs 4 cutOff pieces
      ∧ Replay.play "cam" (fun _ => false) pieces
        = [⟨"cam", .h264, 0, 2, 0, [0xAA, 0xBB]⟩, ⟨"cam", .h264, 1, 6, 5, [0xCC]⟩]
      ∧ Replay.play "cam" (fun k => decide (3 ≤ k)) pieces
        = [⟨"cam", .h264, 0, 2, 1, [0xAA]⟩] := by
  intro pieces
  have hreads : Replay.ReadAs 4 cutOff pieces := ⟨rfl, by decide, by decide⟩
  obtain ⟨hall, hsome, -⟩ := replay_independent_of_reads hreads "cam"
  refine ⟨hreads, ?_, ?_⟩
  · rw [hall _ fun _ _ => rfl]
    decide +kernel
  · rw [hsome _ 3 (by decide) rfl]
    decide +kernel

end SipStills
