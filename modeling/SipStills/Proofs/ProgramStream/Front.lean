/-
# What units look like

`portion` decides what stands at the front of the bytes that have not been taken yet.  This file
says what may stand there without speaking of the order in which `portion` looks.

A unit begins with a start code whose code is that of a unit (`UnitAt`).  Its length is announced as
soon as so much of it has arrived that it can be told (`Announces`); for a video packet the same
bytes say where its payload begins (`VideoFront`).  Bytes at which no unit begins belong to none.
`Front` lists the four things that can be at the front, and `front_portion` says that `portion`
always finds one of them.
-/
import SipStills.Proofs.ProgramStream.Portion

namespace SipStills.ProgramStream

/-! ### Where units begin -/

/-- A unit begins at position `n`: a start code with one of the codes that units have. -/
def UnitAt (bytes : Bytes) (n : Nat) : Prop :=
  StartAt bytes n ∧ ∃ id ∈ bytes[n + 3]?, endCodeId ≤ id

instance (bytes : Bytes) (n : Nat) : Decidable (UnitAt bytes n) :=
  inferInstanceAs (Decidable ([0, 0, 1] <+: bytes.drop n ∧ ∃ id ∈ bytes[n + 3]?, endCodeId ≤ id))

lemma UnitAt.lt_length {bytes : Bytes} {n : Nat} (h : UnitAt bytes n) :
    n + 3 < bytes.length := by
  obtain ⟨-, id, hid, -⟩ := h
  obtain ⟨hlt, -⟩ := List.getElem?_eq_some_iff.1 hid
  exact hlt

lemma unitAt_drop (bytes : Bytes) (k n : Nat) :
    UnitAt (bytes.drop k) n ↔ UnitAt bytes (k + n) := by
  rw [UnitAt, UnitAt, startAt_drop, List.getElem?_drop, Nat.add_assoc]

lemma unitAt_zero_iff {id : UInt8} {rest : Bytes} :
    UnitAt (0 :: 0 :: 1 :: id :: rest) 0 ↔ endCodeId ≤ id := by
  constructor
  · rintro ⟨-, id', hid, hle⟩
    obtain rfl := Option.some.inj hid
    exact hle
  · intro hle
    exact ⟨startAt_zero_iff.2 ⟨id :: rest, rfl⟩, id, rfl, hle⟩

/-- A start code that begins no unit is passed over byte by byte. -/
lemma unitPortion_of_lt {id : UInt8} (h : ¬ endCodeId ≤ id) (rest : Bytes) :
    unitPortion id rest = .garbage 1 := by
  have hEnd : id ≠ endCodeId := by
    rintro rfl
    exact h (by decide)
  have hPack : id ≠ packId := by
    rintro rfl
    exact h (by decide)
  have hVideo : ¬ isVideoId id = true := by
    intro hid
    simp only [isVideoId, Bool.and_eq_true, decide_eq_true_eq] at hid
    exact h (UInt8.le_trans (by decide) hid.1)
  have hSystem : ¬ systemId ≤ id := fun hid => h (UInt8.le_trans (by decide) hid)
  unfold unitPortion
  rw [if_neg hEnd, if_neg hPack, if_neg hVideo, if_neg hSystem]

/-- The units that announce their length have the higher codes. -/
lemma ne_of_systemId_le {id : UInt8} (h : systemId ≤ id) : id ≠ endCodeId ∧ id ≠ packId := by
  constructor
  · rintro rfl
    exact absurd h (by decide)
  · rintro rfl
    exact absurd h (by decide)

lemma systemId_le_of_isVideoId {id : UInt8} (h : isVideoId id = true) : systemId ≤ id := by
  simp only [isVideoId, Bool.and_eq_true, decide_eq_true_eq] at h
  exact UInt8.le_trans (by decide) h.1

lemma endCodeId_le_of_systemId_le {id : UInt8} (h : systemId ≤ id) : endCodeId ≤ id :=
  UInt8.le_trans (by decide) h

/-! ### Video packets -/

/-- At the front stands a video packet of `n` bytes, whose header takes `header` of them; so much
of it has arrived that both lengths can be read. -/
def VideoFront (bytes : Bytes) (n header : Nat) : Prop :=
  ∃ id high low a b optional rest,
    bytes = 0 :: 0 :: 1 :: id :: high :: low :: a :: b :: optional :: rest
      ∧ isVideoId id = true ∧ n = 6 + Bytes.word high low
      ∧ header = videoHeaderLength + optional.toNat

lemma VideoFront.append {bytes : Bytes} {n header : Nat} (h : VideoFront bytes n header)
    (more : Bytes) : VideoFront (bytes ++ more) n header := by
  obtain ⟨id, high, low, a, b, optional, rest, rfl, hid, hn, hheader⟩ := h
  exact ⟨id, high, low, a, b, optional, rest ++ more, rfl, hid, hn, hheader⟩

lemma not_videoFront {id : UInt8} (hid : isVideoId id = false) (rest : Bytes) (n header : Nat) :
    ¬ VideoFront (0 :: 0 :: 1 :: id :: rest) n header := by
  rintro ⟨id', high, low, a, b, optional, tail, heq, hid', -⟩
  simp only [List.cons.injEq, true_and] at heq
  rw [← heq.1, hid] at hid'
  exact absurd hid' Bool.false_ne_true

/-- There is one way to read the lengths. -/
lemma VideoFront.unique {bytes : Bytes} {n header n' header' : Nat} (h : VideoFront bytes n header)
    (h' : VideoFront bytes n' header') : n = n' ∧ header = header' := by
  obtain ⟨id, high, low, a, b, optional, rest, rfl, -, rfl, rfl⟩ := h
  obtain ⟨id', high', low', a', b', optional', rest', heq, -, rfl, rfl⟩ := h'
  simp only [List.cons.injEq, true_and] at heq
  obtain ⟨-, rfl, rfl, -, -, rfl, -⟩ := heq
  exact ⟨rfl, rfl⟩

/-- What stands at the front once the lengths are known. -/
lemma VideoFront.portion_eq {bytes : Bytes} {n header : Nat} (h : VideoFront bytes n header) :
    portion bytes
      = if n ≤ bytes.length then if n < header then .other n else .video n header
        else .incomplete := by
  obtain ⟨id, high, low, a, b, optional, rest, rfl, hid, rfl, rfl⟩ := h
  have hEnd : id ≠ endCodeId := by
    rintro rfl
    exact absurd hid (by decide)
  have hPack : id ≠ packId := by
    rintro rfl
    exact absurd hid (by decide)
  have hholds : Bytes.holds (6 + Bytes.word high low - 4)
        (high :: low :: a :: b :: optional :: rest) = true
      ↔ 6 + Bytes.word high low
        ≤ (0 :: 0 :: 1 :: id :: high :: low :: a :: b :: optional :: rest).length := by
    rw [Bytes.holds_iff]
    simp only [List.length_cons]
    omega
  rw [portion_startCode]
  simp only [unitPortion, if_neg hEnd, if_neg hPack, if_pos hid, hholds]

/-- A packet that waits for more bytes is not all there. -/
lemma VideoFront.length_lt {bytes : Bytes} {n header : Nat} (h : VideoFront bytes n header)
    (hwaits : portion bytes = .incomplete) : bytes.length < n := by
  by_contra hge
  rw [h.portion_eq, if_pos (Nat.le_of_not_lt hge)] at hwaits
  split at hwaits <;> exact Portion.noConfusion hwaits

/-! ### Lengths -/

/-- At the front stands a unit of `n` bytes, and so much of it has arrived that this can be told.
The last byte of a pack header gives the length of its stuffing in three bits; all other units have
two bytes for the length of what follows. -/
inductive Announces : Bytes → Nat → Prop where
  | endCode (rest : Bytes) : Announces (0 :: 0 :: 1 :: endCodeId :: rest) 4
  | pack {rest : Bytes} {last : UInt8} (hlast : rest[9]? = some last) :
      Announces (0 :: 0 :: 1 :: packId :: rest) (14 + last.toNat % 8)
  | video {bytes : Bytes} {n header : Nat} (hfront : VideoFront bytes n header) : Announces bytes n
  | sized {id : UInt8} (hid : systemId ≤ id) (hvideo : isVideoId id = false)
      (high low : UInt8) (rest : Bytes) :
      Announces (0 :: 0 :: 1 :: id :: high :: low :: rest) (6 + Bytes.word high low)

section Announces

variable {id : UInt8} {rest : Bytes} {n : Nat}

lemma announces_pack_iff :
    Announces (0 :: 0 :: 1 :: packId :: rest) n
      ↔ ∃ last, rest[9]? = some last ∧ n = 14 + last.toNat % 8 := by
  constructor
  · intro h
    cases h with
    | pack hlast => exact ⟨_, hlast, rfl⟩
    | video hfront => exact absurd hfront (not_videoFront (by decide) rest _ _)
    | sized hid => exact absurd hid (by decide)
  · rintro ⟨last, hlast, rfl⟩
    exact .pack hlast

lemma announces_video_iff (hid : isVideoId id = true) :
    Announces (0 :: 0 :: 1 :: id :: rest) n
      ↔ ∃ header, VideoFront (0 :: 0 :: 1 :: id :: rest) n header := by
  constructor
  · intro h
    cases h with
    | endCode | pack => exact absurd hid (by decide)
    | video hfront => exact ⟨_, hfront⟩
    | sized _ hvideo => exact absurd hid (by rw [hvideo]; decide)
  · rintro ⟨header, hfront⟩
    exact .video hfront

lemma announces_sized_iff (hid : systemId ≤ id) (hvideo : isVideoId id = false) :
    Announces (0 :: 0 :: 1 :: id :: rest) n
      ↔ ∃ high low tail, rest = high :: low :: tail ∧ n = 6 + Bytes.word high low := by
  constructor
  · intro h
    cases h with
    | endCode | pack => exact absurd hid (by decide)
    | video hfront => exact absurd hfront (not_videoFront hvideo rest _ _)
    | sized _ _ high low tail => exact ⟨high, low, tail, rfl, rfl⟩
  · rintro ⟨high, low, tail, rfl, rfl⟩
    exact .sized hid hvideo high low tail

end Announces

/-- Where a length is announced, a unit begins. -/
lemma Announces.unitAt {bytes : Bytes} {n : Nat} (h : Announces bytes n) : UnitAt bytes 0 := by
  cases h with
  | endCode rest => exact unitAt_zero_iff.2 (UInt8.le_refl _)
  | pack hlast => exact unitAt_zero_iff.2 (by decide)
  | video hfront =>
    obtain ⟨id, high, low, a, b, optional, rest, rfl, hid, -⟩ := hfront
    exact unitAt_zero_iff.2 (endCodeId_le_of_systemId_le (systemId_le_of_isVideoId hid))
  | sized hid => exact unitAt_zero_iff.2 (endCodeId_le_of_systemId_le hid)

/-- There is too little to tell what stands at the front, or a unit begins there whose end has not
arrived. -/
def Waits (bytes : Bytes) : Prop :=
  bytes.length < 4 ∨ UnitAt bytes 0 ∧ ∀ n, Announces bytes n → bytes.length < n

/-- The portion is a unit without video. -/
def Portion.isPlain : Portion → Bool
  | .other _ | .pack _ | .endCode | .map _ => true
  | .incomplete | .garbage _ | .video _ _ => false

/-- What may stand at the front. -/
inductive Front (bytes : Bytes) : Portion → Prop where
  /-- The bytes wait for more. -/
  | incomplete (hwaits : Waits bytes) : Front bytes .incomplete
  /-- No unit begins at any of `n` bytes, nor can one begin there when more bytes arrive. -/
  | garbage {n : Nat} (hpos : 0 < n) (hlen : n + 3 ≤ bytes.length)
      (hnone : ∀ i < n, ¬ UnitAt bytes i) : Front bytes (.garbage n)
  /-- A whole unit that is no video packet, or whose header would be longer than the packet. -/
  | plain {p : Portion} (hplain : p.isPlain = true) (hannounces : Announces bytes p.size)
      (hlen : p.size ≤ bytes.length)
      (hvideo : ∀ header, VideoFront bytes p.size header → p.size < header) : Front bytes p
  /-- A whole video packet. -/
  | video {n header : Nat} (hfront : VideoFront bytes n header) (hheader : header ≤ n)
      (hlen : n ≤ bytes.length) : Front bytes (.video n header)

section Front

variable (rest : Bytes)

lemma front_incomplete_of_unit {id : UInt8} (hid : endCodeId ≤ id)
    (h : ∀ n, Announces (0 :: 0 :: 1 :: id :: rest) n → rest.length + 4 < n) :
    Front (0 :: 0 :: 1 :: id :: rest) .incomplete :=
  .incomplete (.inr ⟨unitAt_zero_iff.2 hid, h⟩)

lemma front_pack : Front (0 :: 0 :: 1 :: packId :: rest) (unitPortion packId rest) := by
  have hEnd : packId ≠ endCodeId := by decide
  simp only [unitPortion, if_neg hEnd, if_true]
  cases hlast : rest[9]? with
  | none =>
    rw [List.drop_eq_nil_of_le (List.getElem?_eq_none_iff.1 hlast)]
    refine front_incomplete_of_unit rest (by decide) fun n hn => ?_
    obtain ⟨last, hsome, -⟩ := announces_pack_iff.1 hn
    rw [hlast] at hsome
    exact absurd hsome (by simp)
  | some last =>
    obtain ⟨hlt, hget⟩ := List.getElem?_eq_some_iff.1 hlast
    rw [List.drop_eq_getElem_cons hlt, hget]
    dsimp only
    split
    · rename_i hholds
      rw [Bytes.holds_iff] at hholds
      refine .plain rfl (.pack hlast) ?_ fun header hvideo =>
        absurd hvideo (not_videoFront (by decide) rest _ _)
      simp only [Portion.size, packLength, List.length_cons] at *
      omega
    · rename_i hholds
      rw [Bytes.holds_iff] at hholds
      refine front_incomplete_of_unit rest (by decide) fun n hn => ?_
      obtain ⟨last', hsome, rfl⟩ := announces_pack_iff.1 hn
      obtain rfl : last = last' := Option.some.inj (hlast.symm.trans hsome)
      simp only [packLength] at hholds
      omega

lemma front_video {id : UInt8} (hid : isVideoId id = true) :
    Front (0 :: 0 :: 1 :: id :: rest) (unitPortion id rest) := by
  have hbegins := endCodeId_le_of_systemId_le (systemId_le_of_isVideoId hid)
  by_cases hfront : ∃ n header, VideoFront (0 :: 0 :: 1 :: id :: rest) n header
  · obtain ⟨n, header, hfront⟩ := hfront
    rw [← portion_startCode, hfront.portion_eq]
    split
    · rename_i hlen
      split
      · rename_i hheader
        refine .plain rfl (.video hfront) hlen fun header' hfront' => ?_
        rwa [← (hfront.unique hfront').2]
      · rename_i hheader
        exact .video hfront (Nat.le_of_not_lt hheader) hlen
    · rename_i hlen
      refine front_incomplete_of_unit rest hbegins fun n' hn' => ?_
      obtain ⟨header', hfront'⟩ := (announces_video_iff hid).1 hn'
      rw [← (hfront.unique hfront').1]
      exact Nat.lt_of_not_le hlen
  · -- the nine bytes of which the lengths are part are not all there
    have hshort : unitPortion id rest = .incomplete := by
      obtain ⟨hEnd, hPack⟩ := ne_of_systemId_le (systemId_le_of_isVideoId hid)
      simp only [unitPortion, if_neg hEnd, if_neg hPack, if_pos hid]
      split
      · rename_i high low a b optional tail
        exact absurd ⟨_, _, id, high, low, a, b, optional, tail, rfl, hid, rfl, rfl⟩ hfront
      · rfl
    rw [hshort]
    refine front_incomplete_of_unit rest hbegins fun n hn => ?_
    obtain ⟨header, hfront'⟩ := (announces_video_iff hid).1 hn
    exact absurd ⟨n, header, hfront'⟩ hfront

lemma front_sized {id : UInt8} (hid : systemId ≤ id) (hvideo : isVideoId id = false) :
    Front (0 :: 0 :: 1 :: id :: rest) (unitPortion id rest) := by
  have hbegins := endCodeId_le_of_systemId_le hid
  obtain ⟨hEnd, hPack⟩ := ne_of_systemId_le hid
  simp only [unitPortion, if_neg hEnd, if_neg hPack, hvideo, Bool.false_eq_true, if_false,
    if_pos hid]
  split
  · rename_i high low tail
    split
    · rename_i hholds
      rw [Bytes.holds_iff] at hholds
      have hlen : 6 + Bytes.word high low ≤ (0 :: 0 :: 1 :: id :: high :: low :: tail).length := by
        simp only [List.length_cons] at hholds ⊢
        omega
      split
      all_goals
        exact .plain rfl (.sized hid hvideo high low tail) hlen
          fun header hfront => absurd hfront (not_videoFront hvideo _ _ header)
    · rename_i hholds
      rw [Bytes.holds_iff] at hholds
      refine front_incomplete_of_unit _ hbegins fun n hn => ?_
      obtain ⟨high', low', tail', heq, rfl⟩ := (announces_sized_iff hid hvideo).1 hn
      simp only [List.cons.injEq] at heq
      obtain ⟨rfl, rfl, -⟩ := heq
      omega
  · rename_i hshort
    refine front_incomplete_of_unit rest hbegins fun n hn => ?_
    obtain ⟨high, low, tail, heq, -⟩ := (announces_sized_iff hid hvideo).1 hn
    exact absurd heq (hshort high low tail)

lemma front_unitPortion (id : UInt8) : Front (0 :: 0 :: 1 :: id :: rest) (unitPortion id rest) := by
  cases hvideo : isVideoId id with
  | true => exact front_video rest hvideo
  | false =>
    by_cases hid : systemId ≤ id
    · exact front_sized rest hid hvideo
    by_cases hPack : id = packId
    · subst hPack
      exact front_pack rest
    by_cases hEnd : id = endCodeId
    · subst hEnd
      exact .plain rfl (.endCode rest) (Nat.le_add_left 4 rest.length)
        fun header hfront => absurd hfront (not_videoFront hvideo rest _ header)
    · have hbelow : ¬ endCodeId ≤ id := by
        rw [UInt8.le_iff_toNat_le] at hid ⊢
        have hne : id.toNat ≠ packId.toNat := fun heq => hPack (UInt8.toNat_inj.1 heq)
        have hne' : id.toNat ≠ endCodeId.toNat := fun heq => hEnd (UInt8.toNat_inj.1 heq)
        simp only [packId, endCodeId, systemId, UInt8.reduceToNat] at *
        omega
      rw [unitPortion_of_lt hbelow]
      refine .garbage Nat.one_pos (Nat.le_add_left 4 rest.length) fun i hi hunit => ?_
      obtain rfl : i = 0 := by omega
      exact hbelow (unitAt_zero_iff.1 hunit)

end Front

/-- `portion` finds what stands at the front. -/
lemma front_portion (bytes : Bytes) : Front bytes (portion bytes) := by
  by_cases h4 : bytes.length < 4
  · rw [portion_of_length_lt h4]
    exact .incomplete (.inl h4)
  by_cases hs : StartAt bytes 0
  · obtain ⟨rest, rfl⟩ := startAt_zero_iff.1 hs
    cases rest with
    | nil => exact absurd (by decide) h4
    | cons id rest =>
      rw [portion_startCode]
      exact front_unitPortion rest id
  · rw [portion_of_not_startAt (by omega) hs]
    have hgap := le_gap_iff.1 (Nat.le_refl (gap bytes))
    have hpos : 1 ≤ gap bytes := by
      refine le_gap_iff.2 ⟨by omega, fun m hm => ?_⟩
      obtain rfl : m = 0 := by omega
      exact hs
    exact .garbage hpos (by omega) fun i hi hunit => hgap.2 i hi hunit.1

end SipStills.ProgramStream
