/-
# Replaying a recording

A recorded program stream is read in chunks, taken apart, and each access unit is raised as
a decode event, the way a media thread would raise it.

Main definition: `Replay.events`.
-/
import SipStills.Event
import SipStills.ProgramStream.Demuxer
import SipStills.Settings.Basic

namespace SipStills

open ProgramStream

/-- The event that an access unit is raised as.  Counts are cut to thirty-two bits. -/
def DecodeEvent.ofAccessUnit (callee : String) (u : AccessUnit) : DecodeEvent where
  callee := callee
  codec := u.codec
  index := u.index.toInt32
  total := Int32.ofNat u.expected
  remaining := Int32.ofNat u.remaining
  payload := u.data

namespace Replay

/-- The events of a recording that is read in the given pieces. -/
def events (callee : String) (reads : List Bytes) : List DecodeEvent :=
  let pushed := (Demuxer.withCodec .h264).pushAll reads
  let last := pushed.2.finish
  (pushed.1 ++ last.1.toList).map (DecodeEvent.ofAccessUnit callee)

/-- The pieces in which a recording is read; a chunk size of zero counts as one. -/
def reads (settings : ReplaySettings) (file : Bytes) : List Bytes :=
  chunks settings.chunkSize.toNat file

/-- The events of a replay, given the recording if it exists.  With `readLimit` the replay
is cancelled before the read of that number; what has arrived until then is still flushed.  The
buffer for a chunk is taken as allocated, which needs a chunk size of less than `2 ^ 63`. -/
def run (settings : ReplaySettings) (file : Option Bytes) (readLimit : Option Nat) :
    Except FileFault (List DecodeEvent) :=
  match file with
  | none => .error .notFound
  | some file =>
    let pieces := reads settings file
    .ok (events settings.callee
      (match readLimit with | none => pieces | some n => pieces.take n))

end Replay
end SipStills
