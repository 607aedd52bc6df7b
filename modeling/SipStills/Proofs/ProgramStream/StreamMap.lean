/-
# Reading written stream maps

The entries of a stream map are read back from its written form, in their order and with their
types and identifiers (`filterMap_mapEntries`).  So a map announces what its last video entry
and its last audio entry say (`announced_encode`).
-/
import Mathlib.Logic.Basic
import Mathlib.Tactic.Lemma
import SipStills.ProgramStream.Writer

namespace SipStills.ProgramStream

/-- What an entry of a written map says about video. -/
def StreamEntry.video? (e : StreamEntry) : Option CodecId :=
  if isVideoId e.streamId then some (videoCodec e.streamType) else none

/-- What an entry of a written map says about audio. -/
def StreamEntry.audio? (e : StreamEntry) : Option UInt8 :=
  if isAudioId e.streamId then some e.streamType else none

/-- Reading a list of entries undoes writing it; `f` is any use of types and identifiers. -/
lemma filterMap_entriesFrom {β : Type} (f : UInt8 → UInt8 → Option β) (offset : Nat)
    (es : List StreamEntry) (h : (es.flatMap StreamEntry.encode).length < 65536) :
    (entriesFrom offset (es.flatMap StreamEntry.encode)).filterMap
        (fun e => f e.streamType e.streamId)
      = es.filterMap fun e => f e.streamType e.streamId := by
  induction es generalizing offset with
  | nil => simp [entriesFrom]
  | cons e es ih =>
    have hlen : e.descriptors.length < 65536 ∧ (es.flatMap StreamEntry.encode).length < 65536 := by
      simp only [List.flatMap_cons, List.length_append, StreamEntry.encode, List.length_cons] at h
      omega
    have hcons : (e :: es).flatMap StreamEntry.encode
        = e.streamType :: e.streamId :: UInt8.ofNat (e.descriptors.length / 256)
          :: UInt8.ofNat e.descriptors.length
          :: (e.descriptors ++ es.flatMap StreamEntry.encode) := by
      simp [StreamEntry.encode, Bytes.ofWord]
    rw [hcons, entriesFrom, Bytes.word_ofWord _ hlen.1, List.drop_left, List.filterMap_cons,
      List.filterMap_cons, ih _ hlen.2]

namespace StreamMap

lemma length_content (m : StreamMap) :
    m.content.length = m.info.length + m.list.length + m.checksum.length + 6 := by
  simp only [content, List.length_cons, List.length_append, Bytes.length_ofWord]
  omega

@[simp] lemma length_encode (m : StreamMap) : m.encode.length = m.content.length + 6 := by
  simp only [encode, startCode, List.length_append, List.length_cons, List.length_nil,
    Bytes.length_ofWord]
  omega

/-- The list of entries is found in the written map. -/
lemma mapEntries_encode {m : StreamMap} (h : m.WellFormed) :
    mapEntries m.encode = entriesFrom (12 + m.info.length) m.list := by
  obtain ⟨hsum, hlen⟩ := h
  rw [length_content] at hlen
  have h12 : ¬ m.encode.length < 12 := by
    rw [length_encode, length_content]
    omega
  have hdrop : m.encode.drop 8
      = UInt8.ofNat (m.info.length / 256) :: UInt8.ofNat m.info.length
        :: (m.info ++ (UInt8.ofNat (m.list.length / 256) :: UInt8.ofNat m.list.length
          :: (m.list ++ m.checksum))) := by
    simp [encode, content, startCode, Bytes.ofWord]
  simp only [mapEntries, if_neg h12, hdrop]
  rw [Bytes.word_ofWord _ (by omega), List.drop_left]
  simp only [Bytes.word_ofWord m.list.length (by omega), List.take_left]

lemma filterMap_mapEntries {β : Type} (f : UInt8 → UInt8 → Option β) {m : StreamMap}
    (h : m.WellFormed) :
    (mapEntries m.encode).filterMap (fun e => f e.streamType e.streamId)
      = m.entries.filterMap fun e => f e.streamType e.streamId := by
  have hlen := h.2
  rw [length_content] at hlen
  rw [mapEntries_encode h]
  exact filterMap_entriesFrom f _ m.entries (by rw [← list]; omega)

/-- A written map announces its last video entry and its last audio entry. -/
lemma announced_encode {m : StreamMap} (h : m.WellFormed) :
    announced m.encode
      = ⟨(m.entries.filterMap StreamEntry.video?).getLast?,
          (m.entries.filterMap StreamEntry.audio?).getLast?⟩ := by
  have hvideo := filterMap_mapEntries
    (fun streamType id => if isVideoId id then some (videoCodec streamType) else none) h
  have haudio := filterMap_mapEntries
    (fun streamType id => if isAudioId id then some streamType else none) h
  exact congrArg₂ Announcement.mk (congrArg List.getLast? hvideo) (congrArg List.getLast? haudio)

end StreamMap
end SipStills.ProgramStream
