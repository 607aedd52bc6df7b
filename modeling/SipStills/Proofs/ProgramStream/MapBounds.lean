/-
# Reading stream maps by position

A stream map comes from outside, and lengths in it tell where to read next: the length of the
program's information, that of the list, and in every entry that of its descriptors.  Each of them
may be any word.

`announcedWithin?` reads a map by position, with a cursor that the lengths move along.  It gives
nothing if a byte is asked for that is not there, and nothing either if the list has more entries
than it may read.  Neither happens in a unit of any bytes, since the cursor stays in front of the
end of the list while an entry is read, and passes at least four bytes with it
(`announcedWithin?_eq`).
-/
import SipStills.Proofs.ProgramStream.StreamMap

namespace SipStills.ProgramStream

/-- The word at a place, if both of its bytes are there. -/
def wordAt? (unit : Bytes) (i : Nat) : Option Nat := do
  let high ← unit[i]?
  let low ← unit[i + 1]?
  return Bytes.word high low

/-- What is announced after one more entry. -/
def Announcement.after (a : Announcement) (e : MapEntry) : Announcement :=
  ⟨e.video?.or a.video, e.audio?.or a.audio⟩

/-- Reads the entries from `cursor` on, at most `rounds` of them, as long as four bytes are left in
front of `stop`; `a` is what the entries before them announce. -/
def announcedFrom? (unit : Bytes) (stop rounds cursor : Nat) (a : Announcement) :
    Option Announcement :=
  if stop < cursor + 4 then some a
  else
    match rounds with
    | 0 => none
    | rounds + 1 => do
      let streamType ← unit[cursor]?
      let streamId ← unit[cursor + 1]?
      let descriptors ← wordAt? unit (cursor + 2)
      announcedFrom? unit stop rounds (cursor + 4 + descriptors)
        (a.after ⟨cursor, streamType, streamId⟩)

/-- Reads a map with at most `rounds` entries. -/
def announcedWithin? (rounds : Nat) (unit : Bytes) : Option Announcement :=
  if unit.length < 12 then some ⟨none, none⟩
  else do
    let info ← wordAt? unit 8
    let lengthAt := 10 + info
    if unit.length < lengthAt + 2 then some ⟨none, none⟩
    else
      let length ← wordAt? unit lengthAt
      let start := lengthAt + 2
      announcedFrom? unit (min (start + length) unit.length) rounds start ⟨none, none⟩

/-! ### Bytes that are there -/

variable {unit : Bytes} {i stop cursor rounds : Nat}

/-- Two bytes that are there are a word and the rest. -/
lemma exists_word (h : i + 2 ≤ unit.length) :
    ∃ high low, unit.drop i = high :: low :: unit.drop (i + 2)
      ∧ wordAt? unit i = some (Bytes.word high low) := by
  have hi : i < unit.length := by omega
  have hi' : i + 1 < unit.length := by omega
  refine ⟨unit[i], unit[i + 1], ?_, ?_⟩
  · rw [List.drop_eq_getElem_cons hi, List.drop_eq_getElem_cons hi']
  · simp [wordAt?, hi, hi']

/-- An entry that ends in front of `stop` is there. -/
lemma exists_entry (hcursor : cursor + 4 ≤ stop) (hstop : stop ≤ unit.length) :
    ∃ streamType streamId high low,
      (unit.take stop).drop cursor
          = streamType :: streamId :: high :: low :: (unit.take stop).drop (cursor + 4)
        ∧ unit[cursor]? = some streamType ∧ unit[cursor + 1]? = some streamId
        ∧ wordAt? unit (cursor + 2) = some (Bytes.word high low) := by
  have h₀ : cursor < (unit.take stop).length := by simp; omega
  have h₁ : cursor + 1 < (unit.take stop).length := by simp; omega
  have h₂ : cursor + 2 < (unit.take stop).length := by simp; omega
  have h₃ : cursor + 3 < (unit.take stop).length := by simp; omega
  have hget (j : Nat) (hj : j < (unit.take stop).length) :
      unit[j]? = some (unit.take stop)[j] := by
    rw [List.getElem_take, List.getElem?_eq_getElem]
  refine ⟨(unit.take stop)[cursor], (unit.take stop)[cursor + 1], (unit.take stop)[cursor + 2],
    (unit.take stop)[cursor + 3], ?_, hget _ h₀, hget _ h₁, ?_⟩
  · rw [List.drop_eq_getElem_cons h₀, List.drop_eq_getElem_cons h₁, List.drop_eq_getElem_cons h₂,
      List.drop_eq_getElem_cons h₃]
  · simp only [wordAt?, hget _ h₂, hget _ h₃]
    rfl

/-- Less than four bytes are no entry. -/
lemma entriesFrom_of_length_lt (offset : Nat) {bytes : Bytes} (h : bytes.length < 4) :
    entriesFrom offset bytes = [] := by
  match bytes, h with
  | [], _ | [_], _ | [_, _], _ | [_, _, _], _ => simp [entriesFrom]

/-! ### The entries -/

/-- The last entries for video and for audio are the ones that count. -/
lemma foldl_after (es : List MapEntry) (a : Announcement) :
    es.foldl Announcement.after a
      = ⟨(es.filterMap MapEntry.video?).getLast?.or a.video,
          (es.filterMap MapEntry.audio?).getLast?.or a.audio⟩ := by
  induction es generalizing a with
  | nil => rfl
  | cons e es ih =>
    rw [List.foldl_cons, ih]
    cases hvideo : e.video? <;> cases haudio : e.audio? <;>
      simp [Announcement.after, hvideo, haudio, List.getLast?_cons]

/-- Reading by position finds the entries of the list in front of `stop`. -/
lemma announcedFrom?_eq (hstop : stop ≤ unit.length) (hrounds : stop < cursor + 4 * rounds + 4)
    (a : Announcement) :
    announcedFrom? unit stop rounds cursor a
      = some ((entriesFrom cursor ((unit.take stop).drop cursor)).foldl Announcement.after a) := by
  induction rounds generalizing cursor a with
  | zero =>
    have hshort : ((unit.take stop).drop cursor).length < 4 := by simp; omega
    rw [announcedFrom?, if_pos (by omega), entriesFrom_of_length_lt cursor hshort]
    rfl
  | succ rounds ih =>
    rw [announcedFrom?]
    split
    · have hshort : ((unit.take stop).drop cursor).length < 4 := by simp; omega
      rw [entriesFrom_of_length_lt cursor hshort]
      rfl
    · obtain ⟨streamType, streamId, high, low, hlist, htype, hid, hword⟩ :=
        exists_entry (Nat.not_lt.1 ‹_›) hstop
      -- the cursor passes four bytes at least, whatever the length of the descriptors
      have hrounds' : stop < cursor + 4 + Bytes.word high low + 4 * rounds + 4 := by omega
      have hrest := ih hrounds' (a.after ⟨cursor, streamType, streamId⟩)
      simp only [htype, hid, hword, Option.bind_eq_bind, Option.bind_some, hrest]
      rw [hlist, entriesFrom, List.foldl_cons, List.drop_drop]

/-! ### The map -/

/-- A map that ends before the length of its list lists nothing. -/
lemma mapEntries_of_length_lt {high low : UInt8}
    (hinfo : unit.drop 8 = high :: low :: unit.drop 10)
    (hshort : unit.length < 12 + Bytes.word high low) : mapEntries unit = [] := by
  unfold mapEntries
  split
  · rfl
  · have hlength : (unit.drop (10 + Bytes.word high low)).length < 2 := by
      rw [List.length_drop]
      omega
    simp only [hinfo, List.drop_drop]
    split
    · rename_i hdrop
      rw [hdrop, List.length_cons, List.length_cons] at hlength
      omega
    · rfl

/-- The list of a map stands behind its length, as far as that goes and the unit does. -/
lemma mapEntries_of_list {high low high' low' : UInt8} (hlong : 12 ≤ unit.length)
    (hinfo : unit.drop 8 = high :: low :: unit.drop 10)
    (hlist : unit.drop (10 + Bytes.word high low)
      = high' :: low' :: unit.drop (10 + Bytes.word high low + 2)) :
    mapEntries unit
      = entriesFrom (10 + Bytes.word high low + 2)
          ((unit.take (min (10 + Bytes.word high low + 2 + Bytes.word high' low')
            unit.length)).drop (10 + Bytes.word high low + 2)) := by
  simp only [mapEntries, if_neg (Nat.not_lt.2 hlong), hinfo, List.drop_drop, hlist]
  rw [List.take_drop, ← List.take_eq_take_min]
  congr 1
  omega

/-- A map is read to its end within its bounds, whatever its bytes are. -/
lemma announcedWithin?_eq (h : (unit.length - 12) / 4 ≤ rounds) :
    announcedWithin? rounds unit = some (announced unit) := by
  have hfold (es : List MapEntry) (hes : mapEntries unit = es) :
      announced unit = es.foldl Announcement.after ⟨none, none⟩ := by
    rw [foldl_after, announced, hes]
    simp
  unfold announcedWithin?
  split
  · rename_i hshort
    rw [hfold [] (by simp [mapEntries, hshort])]
    rfl
  · rename_i hlong
    have hbytes : 8 + 2 ≤ unit.length := by omega
    obtain ⟨high, low, hinfo, hword⟩ := exists_word hbytes
    simp only [hword, Option.bind_eq_bind, Option.bind_some]
    split
    · rename_i hshort
      rw [hfold [] (mapEntries_of_length_lt hinfo (by omega))]
      rfl
    · rename_i hlength
      obtain ⟨high', low', hlist, hword'⟩ := exists_word (Nat.not_lt.1 hlength)
      rw [hword', Option.bind_some, hfold _ (mapEntries_of_list (Nat.not_lt.1 hlong) hinfo hlist)]
      exact announcedFrom?_eq (Nat.min_le_right _ _) (by omega) ⟨none, none⟩

/-- What a written map announces is said by the last of its entries for video and by the last of
those for audio, whatever descriptors stand among them. -/
lemma announced_encode_last {m : StreamMap} (h : m.WellFormed) :
    announced m.encode
      = ⟨(m.entries.filter fun e => isVideoId e.streamId).getLast?.map
            fun e => videoCodec e.streamType,
          (m.entries.filter fun e => isAudioId e.streamId).getLast?.map
            fun e => e.streamType⟩ := by
  have hfilterMap {β : Type} (p : StreamEntry → Bool) (f : StreamEntry → β) :
      m.entries.filterMap (fun e => if p e then some (f e) else none)
        = (m.entries.filter p).map f := by
    induction m.entries with
    | nil => rfl
    | cons e es ih => cases hp : p e <;> simp [hp, ih]
  rw [StreamMap.announced_encode h, ← List.getLast?_map, ← List.getLast?_map, ← hfilterMap,
    ← hfilterMap]
  rfl

/-- A written map is read back: it announces the codec of the last entry for video and the type of
the last entry for audio, or nothing if there is none.  And any bytes at all can be read as a map
without leaving their bounds, in one round for each four bytes behind the first twelve. -/
theorem maps_are_read_within_bounds :
    (∀ m : StreamMap, m.WellFormed →
      announced m.encode
        = ⟨(m.entries.filter fun e => isVideoId e.streamId).getLast?.map
              fun e => videoCodec e.streamType,
            (m.entries.filter fun e => isAudioId e.streamId).getLast?.map
              fun e => e.streamType⟩)
    ∧ ∀ (unit : Bytes) (rounds : Nat), (unit.length - 12) / 4 ≤ rounds →
        announcedWithin? rounds unit = some (announced unit) :=
  ⟨fun _ h => announced_encode_last h, fun _ _ h => announcedWithin?_eq h⟩

/-- Two video streams, the descriptors of one of which look like an entry, an audio stream, and a
stream of another kind. -/
def mixedMap : StreamMap where
  flags := (0xE1, 0xFF)
  info := [0x0A, 0x01, 0x00]
  entries :=
    [⟨0x1B, 0xE0, [0x10, 0xE1, 0x00, 0x00]⟩, ⟨0x90, 0xC0, []⟩, ⟨0x10, 0xE2, [0x2A]⟩,
      ⟨0x06, 0xBD, [0x05, 0x00]⟩]
  checksum := [0x12, 0x34, 0x56, 0x78]

/-- A map with one entry, the lengths of which all lie. -/
def lyingMap : Bytes :=
  startCode mapId ++ [0x00, 0x0A, 0xE1, 0xFF, 0x00, 0x00, 0xFF, 0xFF, 0x1B, 0xE0, 0xFF, 0xFF]

theorem maps_are_read_within_bounds_lying :
    mixedMap.WellFormed
    ∧ announced mixedMap.encode = ⟨some .mpeg4, some 0x90⟩
    ∧ (lyingMap.length - 12) / 4 ≤ 1
    ∧ announcedWithin? 1 lyingMap = some (announced lyingMap)
    ∧ announced lyingMap = ⟨some .h264, none⟩ := by
  obtain ⟨hwritten, hany⟩ := maps_are_read_within_bounds
  have hmixed : mixedMap.WellFormed := ⟨rfl, by decide⟩
  have hrounds : (lyingMap.length - 12) / 4 ≤ 1 := by decide
  have hlying := hany lyingMap 1 hrounds
  have hread : announcedWithin? 1 lyingMap = some ⟨some .h264, none⟩ := by decide
  exact ⟨hmixed, hwritten mixedMap hmixed, hrounds, hlying,
    Option.some.inj (hlying.symm.trans hread)⟩

end SipStills.ProgramStream
