/-
# Taking units off by position

A demuxer does not cut its pending bytes as it goes along: it moves an offset through them, reads
single bytes and parts of them by position, and drops what it has passed at the end.  The positions
are computed from lengths that come from outside.

The functions of this file read in this way, and give nothing if a byte or a part is asked for that
is not there, or if a loop takes more rounds than it may.  Neither happens: they find the portion at
the front (`portionWithin?_eq`), take the portions off a buffer from any offset in it
(`drainWithin?_eq`), and add what has arrived of a packet at the end (`finishWithin?_eq`), whatever
the bytes are.  Every portion but the last takes at least one byte, so the loop needs no more rounds
than there are bytes.
-/
import SipStills.Proofs.ProgramStream.MapBounds
import SipStills.Proofs.ProgramStream.Truncation

namespace SipStills.ProgramStream

/-! ### Reading by position -/

/-- The bytes from position `i` on that stand in front of position `j`, if they are all there. -/
def slice? (bytes : Bytes) (i j : Nat) : Option Bytes :=
  if i ≤ j ∧ j ≤ bytes.length then some ((bytes.take j).drop i) else none

/-- What stands at the front of a buffer that begins with a start code with this code. -/
def unitWithin? (buffer : Bytes) (id : UInt8) : Option Portion :=
  if id = endCodeId then some .endCode
  else if id = packId then
    if buffer.length < packLength then some .incomplete
    else do
      let last ← buffer[13]?
      let n := packLength + last.toNat % 8
      if buffer.length < n then some .incomplete else some (.pack n)
  else if isVideoId id then
    if buffer.length < videoHeaderLength then some .incomplete
    else do
      let n := 6 + (← wordAt? buffer 4)
      if buffer.length < n then some .incomplete
      else do
        let header := videoHeaderLength + (← buffer[8]?).toNat
        if n < header then some (.other n) else some (.video n header)
  else if systemId ≤ id then
    if buffer.length < 6 then some .incomplete
    else do
      let n := 6 + (← wordAt? buffer 4)
      if buffer.length < n then some .incomplete
      else if id = mapId then some (.map n)
      else some (.other n)
  else some (.garbage 1)

/-- What stands at the front of a buffer. -/
def portionWithin? (buffer : Bytes) : Option Portion :=
  if buffer.length < 4 then some .incomplete
  else do
    let code ← slice? buffer 0 3
    if code = [0, 0, 1] then
      let id ← buffer[3]?
      unitWithin? buffer id
    else
      let behind ← slice? buffer 1 buffer.length
      match findStart behind with
      | some n => some (.garbage (n + 1))
      | none => some (.garbage (buffer.length - 3))

namespace Demuxer

/-- What a portion at an offset of the pending bytes does to the demuxer. -/
def absorbWithin? (offset : Nat) (d : Demuxer) : Portion → Option (Option AccessUnit × Demuxer)
  | .incomplete => some (none, d)
  | .garbage n => some (none, { d with skipped := d.skipped + n })
  | .other _ => some (none, d)
  | .pack _ => some d.flush
  | .endCode => some d.flush
  | .map n => do
    let unit ← slice? d.pending offset (offset + n)
    let a ← announcedWithin? ((n - 12) / 4) unit
    some (none, d.announce a)
  | .video n header => do
    let payload ← slice? d.pending (offset + header) (offset + n)
    some (none, d.extend payload (n - header))

/-- Takes portions off the pending bytes from an offset on, at most `rounds` of them, and keeps the
bytes behind them. -/
def drainWithin? (rounds offset : Nat) (d : Demuxer) : Option (List AccessUnit × Demuxer) := do
  let left ← slice? d.pending offset d.pending.length
  let p ← portionWithin? left
  if p = .incomplete then some ([], { d with pending := left })
  else
    match rounds with
    | 0 => none
    | rounds + 1 => do
      let r ← d.absorbWithin? offset p
      let rest ← drainWithin? rounds (offset + p.size) r.2
      some (r.1.toList ++ rest.1, rest.2)

/-- Takes a chunk in at most `rounds` rounds. -/
def pushWithin? (rounds : Nat) (d : Demuxer) (chunk : Bytes) : Option (List AccessUnit × Demuxer) :=
  drainWithin? rounds 0 (d.feed chunk)

/-- Adds the part of a video packet that has arrived. -/
def salvageWithin? (d : Demuxer) (bytes : Bytes) : Option Demuxer :=
  if bytes.length ≤ videoHeaderLength then some d
  else do
    let code ← slice? bytes 0 3
    let id ← bytes[3]?
    if code = [0, 0, 1] ∧ isVideoId id = true then
      let n := 6 + (← wordAt? bytes 4)
      let header := videoHeaderLength + (← bytes[8]?).toNat
      if header ≤ n ∧ header < bytes.length then
        let payload ← slice? bytes header (min bytes.length n)
        some (d.extend payload (n - header))
      else some d
    else some d

/-- Gives out the access unit in progress with the received part of a packet that was cut off. -/
def finishWithin? (d : Demuxer) : Option (Option AccessUnit × Demuxer) := do
  let salvaged ← salvageWithin? { d with pending := [] } d.pending
  some salvaged.flush

end Demuxer

/-! ### What stands at the front -/

lemma slice?_eq {bytes : Bytes} {i j : Nat} (h : i ≤ j) (hj : j ≤ bytes.length) :
    slice? bytes i j = some ((bytes.take j).drop i) := if_pos ⟨h, hj⟩

lemma slice?_length {bytes : Bytes} {i : Nat} (h : i ≤ bytes.length) :
    slice? bytes i bytes.length = some (bytes.drop i) := by
  rw [slice?_eq h (Nat.le_refl _), List.take_length]

/-- Bytes that are as long as the fixed header of a video packet. -/
lemma exists_eq_header {bytes : Bytes} (h : 9 ≤ bytes.length) :
    ∃ x y z id high low a b optional tail,
      bytes = x :: y :: z :: id :: high :: low :: a :: b :: optional :: tail := by
  match bytes, h with
  | x :: y :: z :: id :: high :: low :: a :: b :: optional :: tail, _ =>
    exact ⟨x, y, z, id, high, low, a, b, optional, tail, rfl⟩

section Unit

variable {id : UInt8} {rest : Bytes}

/-- A unit is whole if as many bytes are there as it has. -/
lemma holds_sub_four (id : UInt8) (rest : Bytes) {n : Nat} (hn : 4 ≤ n) :
    Bytes.holds (n - 4) rest = true ↔ ¬ (0 :: 0 :: 1 :: id :: rest).length < n := by
  rw [Bytes.holds_iff]
  simp only [List.length_cons]
  omega

lemma unitWithin?_pack (hEnd : id ≠ endCodeId) (hPack : id = packId) :
    unitWithin? (0 :: 0 :: 1 :: id :: rest) id = some (unitPortion id rest) := by
  unfold unitWithin? unitPortion
  rw [if_neg hEnd, if_neg hEnd, if_pos hPack, if_pos hPack]
  cases hlast : rest[9]? with
  | none =>
    have hlength : rest.length ≤ 9 := List.getElem?_eq_none_iff.1 hlast
    have hshort : (0 :: 0 :: 1 :: id :: rest).length < packLength := by
      simp only [List.length_cons, packLength]
      omega
    rw [List.drop_eq_nil_of_le hlength, if_pos hshort]
  | some last =>
    obtain ⟨hlt, hget⟩ := List.getElem?_eq_some_iff.1 hlast
    have hlong : ¬ (0 :: 0 :: 1 :: id :: rest).length < packLength := by
      simp only [List.length_cons, packLength]
      omega
    have hbyte : (0 :: 0 :: 1 :: id :: rest)[13]? = some last := hlast
    have hfour : 4 ≤ packLength + last.toNat % 8 := by
      simp only [packLength]
      omega
    rw [List.drop_eq_getElem_cons hlt, hget, if_neg hlong]
    simp only [hbyte, Option.bind_eq_bind, Option.bind_some, holds_sub_four id _ hfour,
      ite_not]
    split <;> rfl

lemma unitWithin?_video (hEnd : id ≠ endCodeId) (hPack : id ≠ packId)
    (hvideo : isVideoId id = true) :
    unitWithin? (0 :: 0 :: 1 :: id :: rest) id = some (unitPortion id rest) := by
  unfold unitWithin? unitPortion
  rw [if_neg hEnd, if_neg hEnd, if_neg hPack, if_neg hPack, if_pos hvideo, if_pos hvideo]
  split
  · rename_i hshort
    split
    · simp only [List.length_cons, videoHeaderLength] at hshort
      omega
    · rfl
  · rename_i hlong
    obtain ⟨x, y, z, id', high, low, a, b, optional, tail, heq⟩ :=
      exists_eq_header (Nat.not_lt.1 hlong)
    simp only [List.cons.injEq] at heq
    obtain ⟨rfl, rfl, rfl, rfl, rfl⟩ := heq
    have hword : wordAt? (0 :: 0 :: 1 :: id :: high :: low :: a :: b :: optional :: tail) 4
        = some (Bytes.word high low) := rfl
    have hbyte : (0 :: 0 :: 1 :: id :: high :: low :: a :: b :: optional :: tail)[8]?
        = some optional := rfl
    have hfour : 4 ≤ 6 + Bytes.word high low := by omega
    simp only [hword, hbyte, Option.bind_eq_bind, Option.bind_some,
      holds_sub_four id _ hfour, ite_not]
    split
    · rfl
    · split <;> rfl

lemma unitWithin?_sized (hid : systemId ≤ id) (hvideo : isVideoId id = false) :
    unitWithin? (0 :: 0 :: 1 :: id :: rest) id = some (unitPortion id rest) := by
  obtain ⟨hEnd, hPack⟩ := ne_of_systemId_le hid
  simp only [unitWithin?, unitPortion, if_neg hEnd, if_neg hPack, hvideo, Bool.false_eq_true,
    if_false, if_pos hid]
  rcases rest with _ | ⟨high, _ | ⟨low, tail⟩⟩
  · rfl
  · rfl
  have hlong : ¬ (0 :: 0 :: 1 :: id :: high :: low :: tail).length < 6 := by
    simp only [List.length_cons]
    omega
  have hword : wordAt? (0 :: 0 :: 1 :: id :: high :: low :: tail) 4
      = some (Bytes.word high low) := rfl
  have hfour : 4 ≤ 6 + Bytes.word high low := by omega
  simp only [if_neg hlong, hword, Option.bind_eq_bind, Option.bind_some,
    holds_sub_four id _ hfour, ite_not]
  split
  · rfl
  · split <;> rfl

variable (id rest)

lemma unitWithin?_eq : unitWithin? (0 :: 0 :: 1 :: id :: rest) id = some (unitPortion id rest) := by
  by_cases hEnd : id = endCodeId
  · simp only [unitWithin?, unitPortion, if_pos hEnd]
  by_cases hPack : id = packId
  · exact unitWithin?_pack hEnd hPack
  cases hvideo : isVideoId id with
  | true => exact unitWithin?_video hEnd hPack hvideo
  | false =>
    by_cases hid : systemId ≤ id
    · exact unitWithin?_sized hid hvideo
    · simp only [unitWithin?, unitPortion, if_neg hEnd, if_neg hPack, hvideo, Bool.false_eq_true,
        if_false, if_neg hid]

end Unit

/-- What stands at the front is found within the buffer. -/
lemma portionWithin?_eq (buffer : Bytes) : portionWithin? buffer = some (portion buffer) := by
  unfold portionWithin?
  split
  · rename_i hshort
    rw [portion_of_length_lt hshort]
  · rename_i hlong
    match buffer, hlong with
    | a :: b :: c :: id :: rest, hlong =>
      have hcode : slice? (a :: b :: c :: id :: rest) 0 3 = some [a, b, c] :=
        slice?_eq (by decide) (by simp only [List.length_cons]; omega)
      have hbehind : slice? (a :: b :: c :: id :: rest) 1 (a :: b :: c :: id :: rest).length
          = some (b :: c :: id :: rest) := slice?_length (by simp only [List.length_cons]; omega)
      have hid : (a :: b :: c :: id :: rest)[3]? = some id := rfl
      simp only [hcode, hbehind, hid, Option.bind_eq_bind, Option.bind_some]
      by_cases hstart : a = 0 ∧ b = 0 ∧ c = 1
      · obtain ⟨rfl, rfl, rfl⟩ := hstart
        rw [if_pos rfl, unitWithin?_eq, portion_startCode]
      · have hne : [a, b, c] ≠ [0, 0, 1] := by simpa using hstart
        rw [if_neg hne, portion, if_neg hstart]
        cases findStart (b :: c :: id :: rest) with
        | some n => rfl
        | none => rfl
    | [], hlong | [_], hlong | [_, _], hlong | [_, _, _], hlong => exact absurd hlong (by simp)

/-! ### The loop -/

namespace Demuxer

/-- The demuxer without the pending bytes in front of an offset. -/
def behind (d : Demuxer) (offset : Nat) : Demuxer := { d with pending := d.pending.drop offset }

@[simp] lemma pending_behind (d : Demuxer) (offset : Nat) :
    (d.behind offset).pending = d.pending.drop offset := rfl

@[simp] lemma behind_zero (d : Demuxer) : d.behind 0 = d := rfl

lemma flush_behind (d : Demuxer) (offset : Nat) :
    (d.behind offset).flush = (d.flush.1, d.flush.2.behind offset) := by
  by_cases h : d.payload = []
  · rw [flush, flush, if_pos h, if_pos (show (d.behind offset).payload = [] from h)]
    rfl
  · rw [flush, flush, if_neg h, if_neg (show ¬ (d.behind offset).payload = [] from h)]
    rfl

/-- A portion at an offset does what it does at the front of the bytes from there on. -/
lemma absorbWithin?_eq {d : Demuxer} {offset : Nat} {p : Portion}
    (hp : portion (d.pending.drop offset) = p) (hoffset : offset ≤ d.pending.length) :
    ∃ r, d.absorbWithin? offset p = some r
      ∧ (d.behind offset).absorb p = (r.1, r.2.behind offset) ∧ r.2.pending = d.pending := by
  have hsize := portion_size_le (d.pending.drop offset)
  have hfront := front_portion (d.pending.drop offset)
  rw [hp, List.length_drop] at hsize
  rw [hp] at hfront
  cases p with
  | incomplete | garbage n | other n => exact ⟨_, rfl, rfl, rfl⟩
  | pack n | endCode => exact ⟨_, rfl, d.flush_behind offset, d.pending_flush⟩
  | map n =>
    simp only [Portion.size] at hsize
    have hslice : slice? d.pending offset (offset + n) = some ((d.pending.drop offset).take n) := by
      rw [slice?_eq (by omega) (by omega), List.drop_take, Nat.add_sub_cancel_left]
    have hannounced : announcedWithin? ((n - 12) / 4) ((d.pending.drop offset).take n)
        = some (announced ((d.pending.drop offset).take n)) := by
      refine announcedWithin?_eq (Nat.div_le_div_right (Nat.sub_le_sub_right ?_ 12))
      exact List.length_take_le _ _
    refine ⟨(none, d.announce (announced ((d.pending.drop offset).take n))), ?_, rfl, rfl⟩
    simp only [absorbWithin?, hslice, hannounced, Option.bind_eq_bind, Option.bind_some]
  | video n header =>
    have hheader : header ≤ n := by
      cases hfront with
      | plain hplain => exact absurd hplain (by simp [Portion.isPlain])
      | video _ hheader _ => exact hheader
    simp only [Portion.size] at hsize
    have hslice : slice? d.pending (offset + header) (offset + n)
        = some (((d.pending.drop offset).take n).drop header) := by
      rw [slice?_eq (by omega) (by omega), ← List.drop_drop, List.drop_take,
        Nat.add_sub_cancel_left]
    refine ⟨(none, d.extend (((d.pending.drop offset).take n).drop header) (n - header)), ?_, rfl,
      rfl⟩
    simp only [absorbWithin?, hslice, Option.bind_eq_bind, Option.bind_some]

/-- The pending bytes are drained from an offset on within their bounds, in no more rounds than
bytes are left. -/
lemma drainWithin?_eq {d : Demuxer} {rounds offset : Nat} (hoffset : offset ≤ d.pending.length)
    (hrounds : d.pending.length ≤ offset + rounds) :
    drainWithin? rounds offset d = some (d.behind offset).drain := by
  induction rounds generalizing offset d with
  | zero =>
    have hincomplete : portion (d.pending.drop offset) = .incomplete :=
      portion_of_length_lt (by rw [List.length_drop]; omega)
    rw [drainWithin?, slice?_length hoffset]
    simp only [Option.bind_eq_bind, Option.bind_some, portionWithin?_eq, hincomplete, if_true]
    exact congrArg some (Settled.drain_eq (d := d.behind offset) hincomplete).symm
  | succ rounds ih =>
    rw [drainWithin?, slice?_length hoffset]
    simp only [Option.bind_eq_bind, Option.bind_some, portionWithin?_eq]
    by_cases hincomplete : portion (d.pending.drop offset) = .incomplete
    · rw [if_pos hincomplete]
      exact congrArg some (Settled.drain_eq (d := d.behind offset) hincomplete).symm
    · obtain ⟨r, hwithin, habsorb, hpending⟩ := absorbWithin?_eq (d := d) rfl hoffset
      have hpos := portion_size_pos hincomplete
      have hsize := portion_size_le (d.pending.drop offset)
      rw [List.length_drop] at hsize
      have hadvance : (d.behind offset).advance
          = (r.1, r.2.behind (offset + (portion (d.pending.drop offset)).size)) := by
        simp only [advance, pending_behind, habsorb]
        simp only [behind, hpending, List.drop_drop]
      have hdrain := drain_eq_of_ne (d := d.behind offset) hincomplete
      have hnext : offset + (portion (d.pending.drop offset)).size ≤ r.2.pending.length := by
        rw [hpending]
        omega
      have hrest := ih hnext (by rw [hpending]; omega)
      rw [if_neg hincomplete, hwithin, Option.bind_some, hrest, Option.bind_some, hdrain, hadvance]

/-- A chunk is taken within the bounds of the pending bytes, in no more rounds than there are bytes
then. -/
lemma pushWithin?_eq {d : Demuxer} {chunk : Bytes} {rounds : Nat}
    (hrounds : d.pending.length + chunk.length ≤ rounds) :
    pushWithin? rounds d chunk = some (d.push chunk) := by
  have hlength : (d.feed chunk).pending.length ≤ 0 + rounds := by
    rw [pending_feed, List.length_append, Nat.zero_add]
    exact hrounds
  rw [pushWithin?, drainWithin?_eq (Nat.zero_le _) hlength, behind_zero, push_eq_drain_feed]

/-! ### The end -/

/-- What has arrived of a packet is read within its bounds. -/
lemma salvageWithin?_eq (d : Demuxer) (bytes : Bytes) :
    salvageWithin? d bytes = some (d.salvage bytes) := by
  unfold salvageWithin?
  split
  · rename_i hshort
    rw [salvage_eq_self]
    rintro n header ⟨id, high, low, a, b, optional, rest, -, -, -, rfl⟩ -
    omega
  · rename_i hlong
    obtain ⟨a, b, c, id, high, low, x, y, optional, tail, rfl⟩ :=
      exists_eq_header (Nat.le_of_lt (Nat.not_le.1 hlong))
    have hcode : slice? (a :: b :: c :: id :: high :: low :: x :: y :: optional :: tail) 0 3
        = some [a, b, c] := slice?_eq (by decide) (by simp only [List.length_cons]; omega)
    have hid : (a :: b :: c :: id :: high :: low :: x :: y :: optional :: tail)[3]?
        = some id := rfl
    have hword : wordAt? (a :: b :: c :: id :: high :: low :: x :: y :: optional :: tail) 4
        = some (Bytes.word high low) := rfl
    have hbyte : (a :: b :: c :: id :: high :: low :: x :: y :: optional :: tail)[8]?
        = some optional := rfl
    simp only [hcode, hid, hword, hbyte, Option.bind_eq_bind, Option.bind_some]
    split
    · rename_i hfront
      obtain ⟨hstart, hvideo⟩ := hfront
      obtain ⟨rfl, rfl, rfl⟩ : a = 0 ∧ b = 0 ∧ c = 1 := by simpa using hstart
      rw [salvage_of_videoFront ⟨id, high, low, x, y, optional, tail, rfl, hvideo, rfl, rfl⟩]
      split
      · rename_i hheader
        rw [slice?_eq (by omega) (Nat.min_le_left _ _), Option.bind_some, Nat.min_comm,
          ← List.take_eq_take_min]
      · rfl
    · rename_i hfront
      rw [salvage_eq_self]
      rintro n header ⟨id', high', low', x', y', optional', rest', heq, hvideo, -⟩
      simp only [List.cons.injEq] at heq
      obtain ⟨rfl, rfl, rfl, rfl, -⟩ := heq
      exact absurd ⟨rfl, hvideo⟩ hfront

lemma finishWithin?_eq (d : Demuxer) : finishWithin? d = some d.finish := by
  rw [finishWithin?, salvageWithin?_eq]
  rfl

end Demuxer

end SipStills.ProgramStream
