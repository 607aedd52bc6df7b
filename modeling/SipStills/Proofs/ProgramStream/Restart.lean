/-
# Starting again after `finish`

`finish` is a clean cut.  Whatever bytes waited when it was called, and whatever unit was in
progress, the demuxer that it leaves is a fresh one with a past (`finish_eq_after`); and a past is
carried along without being looked at.  So what comes out of the bytes pushed then is what a fresh
demuxer gives out of them, with numbers that go on, and nothing of what was pushed before can be
seen in it (`finish_cuts_cleanly`).
-/
import SipStills.Proofs.ProgramStream.Past
import SipStills.Proofs.ProgramStream.Runs

namespace SipStills.ProgramStream.Demuxer

/-- `d` stands where `fresh` does, and carries along what `old` had. -/
structure Resumes (fresh old d : Demuxer) : Prop where
  pending_eq : d.pending = fresh.pending
  codec_eq : d.codec = fresh.codec
  payload_eq : d.payload = fresh.payload
  expected_eq : d.expected = fresh.expected
  audio_eq : d.audio = (fresh.audio <|> old.audio)
  nextIndex_eq : d.nextIndex = old.nextIndex + fresh.nextIndex
  skipped_eq : d.skipped = old.skipped + fresh.skipped

lemma resumes_after (fresh old : Demuxer) : Resumes fresh old (fresh.after old.past) where
  pending_eq := rfl
  codec_eq := rfl
  payload_eq := rfl
  expected_eq := rfl
  audio_eq := rfl
  nextIndex_eq := rfl
  skipped_eq := rfl

/-- A demuxer that holds no bytes is a fresh one but for its past. -/
lemma eq_after_past {d : Demuxer} (hpending : d.pending = []) (hpayload : d.payload = [])
    (hexpected : d.expected = 0) : d = (withCodec d.codec).after d.past := by
  cases d
  simp_all [withCodec, after, past]

lemma finish_eq_after (d : Demuxer) : d.finish.2 = (withCodec d.codec).after d.finish.2.past := by
  have hpayload : d.finish.2.payload = [] := payload_flush _
  have hexpected : d.finish.2.expected = 0 := expected_flush _
  have hafter := eq_after_past (pending_finish d) hpayload hexpected
  rwa [codec_finish] at hafter

/-- A second `finish` right behind the first gives out nothing. -/
lemma finish_finish (d : Demuxer) : d.finish.2.finish.1 = none := by
  rw [finish_eq_after, finish_after]
  rfl

/-- What comes after `finish`, in any state `d` that a demuxer can get into.  Pushing chunks gives
out the units that a fresh demuxer for the codec of `d` gives out of their bytes, each with its
number moved by the number of units given out before, and so does a `finish` behind them.  The state
is that of the fresh demuxer, but for the audio type, which stays if none is announced, and the
count of skipped bytes, which goes on.  A `finish` right behind the first gives out nothing. -/
theorem finish_cuts_cleanly (codec : CodecId) (calls : List Call) (chunks : List Bytes) :
    let before := (withCodec codec).run calls
    let d := before.2
    let n := UInt32.ofNat ((before.1.flatMap Prod.snd).length + d.finish.1.toList.length)
    let fresh := (withCodec d.codec).push chunks.flatten
    let later := d.finish.2.pushAll chunks
    later.1 = fresh.1.map (·.numberedAfter n)
      ∧ later.2.finish.1 = fresh.2.finish.1.map (·.numberedAfter n)
      ∧ Resumes fresh.2 d.finish.2 later.2
      ∧ Resumes fresh.2.finish.2 d.finish.2 later.2.finish.2
      ∧ d.finish.2.finish.1 = none := by
  intro before d n fresh later
  have hnumbers : Numbers (withCodec codec) (before.1.flatMap Prod.snd ++ d.finish.1.toList)
      d.finish.2 := (numbers_run _ calls).trans (numbers_answer d .finish)
  have hn : d.finish.2.past.units = n := by
    have hnext := hnumbers.next_eq
    rw [List.length_append] at hnext
    exact hnext.trans (UInt32.zero_add _)
  have hfresh : (withCodec d.codec).pushAll chunks = fresh :=
    pushAll_eq_of_settled (Reachable.start d.codec).settled chunks
  have hlater : later = (fresh.1.map (·.numberedAfter n), fresh.2.after d.finish.2.past) := by
    calc later
        = ((withCodec d.codec).after d.finish.2.past).pushAll chunks := by
          rw [← finish_eq_after]
      _ = (fresh.1.map (·.numberedAfter n), fresh.2.after d.finish.2.past) := by
          rw [pushAll_after, hfresh, hn]
  have hfinish : later.2.finish
      = (fresh.2.finish.1.map (·.numberedAfter n), fresh.2.finish.2.after d.finish.2.past) := by
    rw [hlater, finish_after, hn]
  refine ⟨?_, ?_, ?_, ?_, finish_finish d⟩
  · rw [hlater]
  · rw [hfinish]
  · rw [hlater]
    exact resumes_after _ _
  · rw [hfinish]
    exact resumes_after _ _

end SipStills.ProgramStream.Demuxer
