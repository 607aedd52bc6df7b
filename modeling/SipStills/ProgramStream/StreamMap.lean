/-
# Stream maps

A stream map lists the elementary streams of a program: for each the type of its coding,
its identifier and some descriptors.  From it a demuxer learns the video codec and the type
of the audio stream.

Main definitions: `mapEntries` (the list in a map) and `announced` (what it says about video
and audio).  Main statements: `videoCodec_eq_iff` and `isAudioId_iff`, the table of types and the
range of audio streams.
-/
import SipStills.Codec
import SipStills.ProgramStream.Portion

namespace SipStills.ProgramStream

/-- One elementary stream of a map. -/
structure MapEntry where
  /-- Where in the unit the entry begins. -/
  offset : Nat
  /-- How the stream is coded. -/
  streamType : UInt8
  /-- The code of its packets. -/
  streamId : UInt8
deriving DecidableEq

/-- The entries in `bytes`, which begin at `offset` in the unit.  Each has four bytes and the
descriptors that it announces; an entry cut short is left out. -/
def entriesFrom (offset : Nat) : Bytes → List MapEntry
  | streamType :: streamId :: high :: low :: rest =>
    ⟨offset, streamType, streamId⟩
      :: entriesFrom (offset + 4 + Bytes.word high low) (rest.drop (Bytes.word high low))
  | _ => []
termination_by bytes => bytes.length
decreasing_by simp only [List.length_drop, List.length_cons]; omega

/-- The entries of a stream map.  Behind ten bytes stands the program's information, whose
length the last two of them give, then the length of the list, then the list; the list ends
with the unit at the latest.  A map too short for that lists nothing. -/
def mapEntries (unit : Bytes) : List MapEntry :=
  if unit.length < 12 then []
  else
    match unit.drop 8 with
    | high :: low :: rest =>
      let info := Bytes.word high low
      match rest.drop info with
      | high :: low :: list =>
        entriesFrom (12 + info) (list.take (Bytes.word high low))
      | _ => []
    | _ => []

/-- The codecs of the video types that have one.  Type `0x80` is a codec for which no
decoder exists. -/
def videoCodec (streamType : UInt8) : CodecId :=
  if streamType = 0x1B then .h264
  else if streamType = 0x10 then .mpeg4
  else .none

/-- Two types have a codec of their own, and no others have any. -/
theorem videoCodec_eq_iff (streamType : UInt8) :
    (videoCodec streamType = .h264 ↔ streamType = 0x1B)
      ∧ (videoCodec streamType = .mpeg4 ↔ streamType = 0x10)
      ∧ (videoCodec streamType = .none ↔ streamType ≠ 0x1B ∧ streamType ≠ 0x10) := by
  unfold videoCodec
  split
  · rename_i h
    subst h
    decide
  · split
    · rename_i h
      subst h
      decide
    · rename_i hfirst hsecond
      simp only [hfirst, hsecond, ne_eq, not_false_eq_true, and_self, iff_false]
      decide

/-- The codes of audio packets. -/
def isAudioId (id : UInt8) : Bool := decide (0xC0 ≤ id) && decide (id ≤ 0xDF)

/-- They are those from `C0` to `DF`. -/
theorem isAudioId_iff (id : UInt8) : isAudioId id = true ↔ 0xC0 ≤ id.toNat ∧ id.toNat ≤ 0xDF := by
  rw [isAudioId, Bool.and_eq_true, decide_eq_true_iff, decide_eq_true_iff, UInt8.le_iff_toNat_le,
    UInt8.le_iff_toNat_le]
  rfl

/-- The codec of an entry for video. -/
def MapEntry.video? (e : MapEntry) : Option CodecId :=
  if isVideoId e.streamId then some (videoCodec e.streamType) else none

/-- The type of an entry for audio. -/
def MapEntry.audio? (e : MapEntry) : Option UInt8 :=
  if isAudioId e.streamId then some e.streamType else none

/-- What a stream map says about video and audio. -/
structure Announcement where
  /-- The codec of the last video stream it lists. -/
  video : Option CodecId
  /-- The type of the last audio stream it lists. -/
  audio : Option UInt8
deriving DecidableEq

/-- What a stream map says about video and audio. -/
def announced (unit : Bytes) : Announcement :=
  let entries := mapEntries unit
  ⟨(entries.filterMap MapEntry.video?).getLast?, (entries.filterMap MapEntry.audio?).getLast?⟩

end SipStills.ProgramStream
