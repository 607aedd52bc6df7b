/-
# What a push takes and what it leaves

A push takes portions off the pending bytes until it meets one that is incomplete (`portions`,
`drain_eq_absorbAll`).  Each of them takes at least one byte, so there are no more of them than
bytes, and every byte that is pushed is skipped, part of a unit that was taken, or pending
(`balance_run`); only `finish` drops bytes otherwise.

What is left is short.  As long as too little has arrived to read the length of a unit there are
fewer than nine bytes, or fewer than the shortest pack header has; and of a unit whose length can be
read there are fewer bytes than that (`Remains`).  No unit is longer than a word can say, and six
bytes more.

That all of this is read within the bounds of the pending bytes is in
`SipStills.Proofs.ProgramStream.Positions`.
-/
import SipStills.Proofs.ProgramStream.Positions
import SipStills.Proofs.ProgramStream.Runs

namespace SipStills.ProgramStream

/-! ### The bytes that are left -/

/-- The bytes are too few for most lengths to be read, or a unit begins with them that is longer
than they are, whatever its length turns out to be. -/
def Remains (bytes : Bytes) : Prop :=
  bytes.length < videoHeaderLength
    ∨ UnitAt bytes 0 ∧ (∃ more n, Announces (bytes ++ more) n)
      ∧ ∀ more n, Announces (bytes ++ more) n → bytes.length < n

/-- With fourteen bytes the length of any unit can be read. -/
lemma exists_announces {id : UInt8} {rest : Bytes} (hid : endCodeId ≤ id)
    (hlength : 10 ≤ rest.length) : ∃ n, Announces (0 :: 0 :: 1 :: id :: rest) n := by
  match rest, hlength with
  | high :: low :: a :: b :: optional :: tail, hlength =>
    by_cases hEnd : id = endCodeId
    · subst hEnd
      exact ⟨_, .endCode _⟩
    by_cases hPack : id = packId
    · subst hPack
      exact ⟨_, .pack (List.getElem?_eq_getElem (show 9 < _ by omega))⟩
    cases hvideo : isVideoId id with
    | true =>
      exact ⟨_, .video ⟨id, high, low, a, b, optional, tail, rfl, hvideo, rfl, rfl⟩⟩
    | false =>
      have hsystem : systemId ≤ id := by
        have hne : id.toNat ≠ endCodeId.toNat := fun heq => hEnd (UInt8.toNat_inj.1 heq)
        have hne' : id.toNat ≠ packId.toNat := fun heq => hPack (UInt8.toNat_inj.1 heq)
        rw [UInt8.le_iff_toNat_le] at hid ⊢
        simp only [packId, endCodeId, systemId, UInt8.reduceToNat] at *
        omega
      exact ⟨_, .sized hsystem hvideo high low (a :: b :: optional :: tail)⟩

/-- A length that is announced when more bytes have arrived, and that is not greater than the number
of bytes there are, was announced before, unless there are fewer than nine. -/
lemma Announces.of_append {bytes more : Bytes} {n : Nat} (h : Announces (bytes ++ more) n)
    (hlong : videoHeaderLength ≤ bytes.length) (hn : n ≤ bytes.length) : Announces bytes n := by
  obtain ⟨x, y, z, id, high, low, a, b, optional, tail, rfl⟩ := exists_eq_header hlong
  generalize hwhole :
    x :: y :: z :: id :: high :: low :: a :: b :: optional :: tail ++ more = whole at h
  simp only [List.cons_append] at hwhole
  cases h with
  | endCode rest =>
    simp only [List.cons.injEq] at hwhole
    obtain ⟨rfl, rfl, rfl, rfl, -⟩ := hwhole
    exact .endCode _
  | @pack rest last hlast =>
    simp only [List.cons.injEq] at hwhole
    obtain ⟨rfl, rfl, rfl, rfl, rfl⟩ := hwhole
    -- the last byte of the header is there, since the header is
    refine .pack ?_
    rwa [← List.cons_append, ← List.cons_append, ← List.cons_append, ← List.cons_append,
      ← List.cons_append, List.getElem?_append_left] at hlast
    simp only [List.length_cons] at hn ⊢
    omega
  | video hfront =>
    obtain ⟨id', high', low', a', b', optional', rest, rfl, hvideo, rfl, rfl⟩ := hfront
    simp only [List.cons.injEq] at hwhole
    obtain ⟨rfl, rfl, rfl, rfl, rfl, rfl, -⟩ := hwhole
    exact .video ⟨id, high, low, a, b, optional, tail, rfl, hvideo, rfl, rfl⟩
  | sized hid hvideo high' low' rest =>
    simp only [List.cons.injEq] at hwhole
    obtain ⟨rfl, rfl, rfl, rfl, rfl, rfl, -⟩ := hwhole
    exact .sized hid hvideo high low _

/-- Bytes from which no portion can be taken are a remainder. -/
lemma remains_of_incomplete {bytes : Bytes} (h : portion bytes = .incomplete) : Remains bytes := by
  have hfront := front_portion bytes
  rw [h] at hfront
  cases hfront with
  | plain hplain => exact absurd hplain (by decide)
  | incomplete hwaits =>
    rcases hwaits with hshort | ⟨hunit, hlengths⟩
    · refine .inl ?_
      simp only [videoHeaderLength]
      omega
    by_cases hlong : videoHeaderLength ≤ bytes.length
    · refine .inr ⟨hunit, ?_, fun more n hn => Nat.lt_of_not_le fun hle => ?_⟩
      · obtain ⟨tail, rfl⟩ := startAt_zero_iff.1 hunit.1
        rcases tail with _ | ⟨id, rest⟩
        · exact absurd hunit.lt_length (by simp)
        · exact ⟨List.replicate 10 0, exists_announces (unitAt_zero_iff.1 hunit) (by simp)⟩
      · exact absurd hle (Nat.not_le.2 (hlengths n (hn.of_append hlong hle)))
    · exact .inl (Nat.lt_of_not_le hlong)

/-- No unit is longer than a word can say, and six bytes more. -/
lemma Announces.le {bytes : Bytes} {n : Nat} (h : Announces bytes n) : n ≤ 65541 := by
  cases h with
  | endCode rest => decide
  | pack hlast => omega
  | video hfront =>
    obtain ⟨id, high, low, a, b, optional, rest, -, -, rfl, -⟩ := hfront
    have hword := Bytes.word_lt high low
    omega
  | sized hid hvideo high low rest =>
    have hword := Bytes.word_lt high low
    omega

lemma Remains.length_le {bytes : Bytes} (h : Remains bytes) : bytes.length ≤ 65540 := by
  rcases h with hshort | ⟨-, ⟨more, n, hn⟩, hlengths⟩
  · simp only [videoHeaderLength] at hshort
    omega
  · have hlt := hlengths more n hn
    have hle := hn.le
    omega

/-! ### The portions that are taken -/

lemma length_drop_portion_lt {bytes : Bytes} (h : portion bytes ≠ .incomplete) :
    (bytes.drop (portion bytes).size).length < bytes.length := by
  have hpos := portion_size_pos h
  have hle := portion_size_le bytes
  rw [List.length_drop]
  omega

/-- The portions that are taken off the bytes, in order. -/
def portions (bytes : Bytes) : List Portion :=
  if h : portion bytes = .incomplete then []
  else
    have := length_drop_portion_lt h
    portion bytes :: portions (bytes.drop (portion bytes).size)
termination_by bytes.length
decreasing_by exact this

lemma portions_of_incomplete {bytes : Bytes} (h : portion bytes = .incomplete) :
    portions bytes = [] := by
  rw [portions, dif_pos h]

lemma portions_of_ne {bytes : Bytes} (h : portion bytes ≠ .incomplete) :
    portions bytes = portion bytes :: portions (bytes.drop (portion bytes).size) := by
  rw [portions, dif_neg h]

/-- The number of bytes that a portion skips. -/
def Portion.skips : Portion → Nat
  | .garbage n => n
  | _ => 0

/-- The number of bytes of the unit that a portion is. -/
def Portion.unitSize : Portion → Nat
  | .garbage _ => 0
  | p => p.size

lemma Portion.skips_add_unitSize (p : Portion) : p.skips + p.unitSize = p.size := by
  cases p <;> simp [skips, unitSize, size]

/-- The number of bytes of the units among the portions. -/
def unitBytes : List Portion → Nat
  | [] => 0
  | p :: ps => p.unitSize + unitBytes ps

@[simp] lemma unitBytes_append (ps qs : List Portion) :
    unitBytes (ps ++ qs) = unitBytes ps + unitBytes qs := by
  induction ps with
  | nil => simp [unitBytes]
  | cons p ps ih => rw [List.cons_append, unitBytes, unitBytes, ih, Nat.add_assoc]

namespace Demuxer

/-- Takes these portions off the pending bytes. -/
def absorbAll (d : Demuxer) : List Portion → List AccessUnit × Demuxer
  | [] => ([], d)
  | p :: ps =>
    let r := d.absorb p
    let rest := absorbAll { r.2 with pending := d.pending.drop p.size } ps
    (r.1.toList ++ rest.1, rest.2)

/-- Draining takes off the portions of the pending bytes, and nothing else. -/
lemma drain_eq_absorbAll (d : Demuxer) : d.drain = d.absorbAll (portions d.pending) := by
  fun_induction drain d with
  | case1 d h => rw [portions_of_incomplete h, absorbAll]
  | case2 d h hlt r rest ih =>
    rw [portions_of_ne h, absorbAll]
    simp only [rest, ih]
    rfl

lemma skipped_absorb (d : Demuxer) (p : Portion) :
    (d.absorb p).2.skipped = d.skipped + p.skips := by
  cases p with
  | garbage n => rfl
  | pack n | endCode => exact d.skipped_flush
  | incomplete | other n | map n | video n header => rfl

/-- Every byte that is taken off is skipped or part of a unit. -/
lemma balance_drain (d : Demuxer) :
    d.skipped + d.pending.length
      = d.drain.2.skipped + unitBytes (portions d.pending) + d.drain.2.pending.length := by
  fun_induction drain d with
  | case1 d h =>
    rw [portions_of_incomplete h]
    rfl
  | case2 d h hlt r rest ih =>
    have hsize := portion_size_le d.pending
    have hparts := (portion d.pending).skips_add_unitSize
    have hskipped : d.advance.2.skipped = d.skipped + (portion d.pending).skips :=
      d.skipped_absorb _
    have hpending : d.advance.2.pending = d.pending.drop (portion d.pending).size := rfl
    rw [hskipped, hpending, List.length_drop] at ih
    rw [portions_of_ne h]
    have hhead : unitBytes (portion d.pending :: portions (d.pending.drop (portion d.pending).size))
        = (portion d.pending).unitSize
          + unitBytes (portions (d.pending.drop (portion d.pending).size)) := rfl
    simp only [rest, hhead]
    omega

/-- The portions that the pushes of a run take off. -/
def taken (d : Demuxer) : List Call → List Portion
  | [] => []
  | .push chunk :: calls => portions (d.pending ++ chunk) ++ taken (d.push chunk).2 calls
  | .finish :: calls => taken d.finish.2 calls

/-- The number of pending bytes that are dropped by the calls of `finish` in a run. -/
def dropped (d : Demuxer) : List Call → Nat
  | [] => 0
  | .push chunk :: calls => dropped (d.push chunk).2 calls
  | .finish :: calls => d.pending.length + dropped d.finish.2 calls

@[simp] lemma skipped_finish (d : Demuxer) : d.finish.2.skipped = d.skipped := by
  obtain ⟨payload, announced, -, heq⟩ := exists_salvage_eq { d with pending := [] } d.pending
  rw [finish, heq, skipped_flush]
  rfl

/-- The books of a run balance. -/
lemma balance_run (d : Demuxer) (calls : List Call) :
    d.skipped + d.pending.length + (calls.flatMap Call.bytes).length
      = (d.run calls).2.skipped + unitBytes (d.taken calls) + (d.run calls).2.pending.length
        + d.dropped calls := by
  induction calls generalizing d with
  | nil => simp [run, taken, dropped, unitBytes]
  | cons call calls ih =>
    cases call with
    | push chunk =>
      have hpush : d.skipped + (d.pending ++ chunk).length
          = (d.push chunk).2.skipped + unitBytes (portions (d.pending ++ chunk))
            + (d.push chunk).2.pending.length := balance_drain (d.feed chunk)
      have hrest := ih (d.push chunk).2
      simp only [run, answer, taken, dropped, unitBytes_append, List.flatMap_cons, Call.bytes,
        List.length_append] at *
      omega
    | finish =>
      have hrest := ih d.finish.2
      simp only [run, answer, taken, dropped, List.flatMap_cons, Call.bytes, List.nil_append,
        skipped_finish, pending_finish, List.length_nil] at *
      omega

lemma dropped_of_push {d : Demuxer} {calls : List Call} (h : .finish ∉ calls) :
    d.dropped calls = 0 := by
  induction calls generalizing d with
  | nil => rfl
  | cons call calls ih =>
    cases call with
    | push chunk => exact ih fun hmem => h (List.mem_cons_of_mem _ hmem)
    | finish => exact absurd List.mem_cons_self h

/-! ### The main result -/

/-- Pushing is safe, comes to an end, and leaves little.

* A portion that can be taken takes at least one byte, and no more than there are.
* Read by position, what stands at the front is found without leaving the bytes, a push is carried
  out without leaving the pending bytes, in no more rounds than there are of them, and so is
  `finish`.
* What a push leaves is a remainder, and never longer than 65540 bytes.
* A push takes off portions one after the other; along a run every byte that is pushed is skipped,
  part of a unit that was taken off, or pending, unless `finish` has dropped it. -/
theorem push_stays_within_bounds :
    (∀ bytes, portion bytes ≠ .incomplete →
      1 ≤ (portion bytes).size ∧ (portion bytes).size ≤ bytes.length)
    ∧ (∀ bytes, portionWithin? bytes = some (portion bytes))
    ∧ (∀ (d : Demuxer) chunk rounds, d.pending.length + chunk.length ≤ rounds →
        pushWithin? rounds d chunk = some (d.push chunk))
    ∧ (∀ d, finishWithin? d = some d.finish)
    ∧ (∀ (d : Demuxer) chunk, Remains (d.push chunk).2.pending
        ∧ (d.push chunk).2.pending.length ≤ 65540)
    ∧ (∀ (d : Demuxer) chunk,
        d.push chunk = (d.feed chunk).absorbAll (portions (d.pending ++ chunk)))
    ∧ (∀ (d : Demuxer) calls,
        d.skipped + d.pending.length + (calls.flatMap Call.bytes).length
          = (d.run calls).2.skipped + unitBytes (d.taken calls) + (d.run calls).2.pending.length
            + d.dropped calls)
    ∧ ∀ codec calls, .finish ∉ calls →
        (calls.flatMap Call.bytes).length
          = ((withCodec codec).run calls).2.skipped + unitBytes ((withCodec codec).taken calls)
            + ((withCodec codec).run calls).2.pending.length := by
  refine ⟨fun bytes h => ⟨portion_size_pos h, portion_size_le bytes⟩, portionWithin?_eq,
    fun d chunk rounds h => pushWithin?_eq h, finishWithin?_eq, fun d chunk => ?_,
    fun d chunk => drain_eq_absorbAll (d.feed chunk), balance_run, fun codec calls hcalls => ?_⟩
  · have hremains : Remains (d.push chunk).2.pending := remains_of_incomplete (settled_drain _)
    exact ⟨hremains, hremains.length_le⟩
  · have hbalance := balance_run (withCodec codec) calls
    rw [dropped_of_push hcalls] at hbalance
    simpa [withCodec] using hbalance

/-- Two bytes of garbage, an end code, and the fixed header of a video packet whose lengths lie. -/
def lyingChunk : Bytes :=
  [9, 9] ++ startCode endCodeId ++ startCode 0xE0 ++ [0xFF, 0xFF, 0x80, 0x00, 0xFF]

theorem push_stays_within_bounds_lying :
    let d := withCodec .h264
    let calls := [Call.push lyingChunk]
    (portion lyingChunk ≠ .incomplete
      ∧ 1 ≤ (portion lyingChunk).size ∧ (portion lyingChunk).size ≤ lyingChunk.length)
    ∧ d.pending.length + lyingChunk.length ≤ 15
    ∧ pushWithin? 15 d lyingChunk = some (d.push lyingChunk)
    ∧ (d.push lyingChunk).2.skipped = 2 ∧ (d.push lyingChunk).2.pending.length = 9
    ∧ Remains (d.push lyingChunk).2.pending
    ∧ .finish ∉ calls ∧ unitBytes (d.taken calls) = 4 := by
  intro d calls
  obtain ⟨hsizes, -, hwithin, -, hleft, -, -, hbalance⟩ := push_stays_within_bounds
  have hportion : portion lyingChunk ≠ .incomplete := by decide
  have hrounds : d.pending.length + lyingChunk.length ≤ 15 := by decide
  have hread := hwithin d lyingChunk 15 hrounds
  have hpush : d.push lyingChunk = ([], { d with pending := lyingChunk.drop 6, skipped := 2 }) :=
    Option.some.inj (hread.symm.trans (by decide))
  have hcalls : .finish ∉ calls := by decide
  have hbytes := hbalance .h264 calls hcalls
  have hlast : (d.run calls).2 = (d.push lyingChunk).2 := rfl
  rw [show (withCodec .h264).run calls = d.run calls from rfl, hlast, hpush] at hbytes
  refine ⟨⟨hportion, hsizes lyingChunk hportion⟩, hrounds, hread, by rw [hpush],
    by rw [hpush]; rfl, (hleft d lyingChunk).1, hcalls, ?_⟩
  have hsum : 15 = 2 + unitBytes (d.taken calls) + 9 := hbytes
  omega

end Demuxer

end SipStills.ProgramStream
