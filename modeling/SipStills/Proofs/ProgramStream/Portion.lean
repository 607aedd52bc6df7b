/-
# Portions of a growing byte string

A demuxer looks at the front of the bytes that have arrived so far, and more bytes may follow.
This file says which of its decisions stay the same when they do.

A start code is an occurrence of `00 00 01`; `StartAt bytes n` says that one begins at position
`n`.  Where none begins at the front, a portion is garbage, and its length is `gap bytes`: the
bytes before the first start code, or, without one, all bytes but the last three.

* `unitPortion_append`, `portion_append`: a unit that was recognised is recognised again when
  bytes are added behind it;
* `le_gap_iff`: the positions in the gap are those at which no start code begins;
* `gap_drop`, `gap_le_gap_append`: the gap can be taken off in pieces, and it only grows when
  bytes are added.

The length of a garbage portion itself may change with more bytes: a partial start code is kept
back as long as it is the last thing there.
-/
import Mathlib.Tactic.Lemma
import Mathlib.Order.Nat
import Mathlib.Data.Nat.Find
import SipStills.ProgramStream.Portion

namespace SipStills.ProgramStream

/-! ### Start codes -/

/-- A start code begins at position `n`. -/
def StartAt (bytes : Bytes) (n : Nat) : Prop := [0, 0, 1] <+: bytes.drop n

lemma StartAt.le_length {bytes : Bytes} {n : Nat} (h : StartAt bytes n) :
    n + 3 ≤ bytes.length := by
  have hlen := List.IsPrefix.length_le h
  simp only [List.length_cons, List.length_nil, List.length_drop] at hlen
  omega

lemma startAt_cons_succ (a : UInt8) (rest : Bytes) (n : Nat) :
    StartAt (a :: rest) (n + 1) ↔ StartAt rest n := Iff.rfl

lemma startAt_drop (bytes : Bytes) (k n : Nat) :
    StartAt (bytes.drop k) n ↔ StartAt bytes (k + n) := by
  rw [StartAt, StartAt, List.drop_drop]

/-- A start code that is there stays there, and bytes added behind it make no earlier one. -/
lemma startAt_append_iff {bytes : Bytes} {n : Nat} (more : Bytes) (h : n + 3 ≤ bytes.length) :
    StartAt (bytes ++ more) n ↔ StartAt bytes n := by
  have hlen : [0, 0, 1].length ≤ (bytes.drop n).length := by
    simp only [List.length_cons, List.length_nil, List.length_drop]
    omega
  rw [StartAt, StartAt, List.drop_append_of_le_length (by omega)]
  constructor
  · intro hp
    exact List.prefix_of_prefix_length_le hp (List.prefix_append _ _) hlen
  · intro hp
    exact hp.trans (List.prefix_append _ _)

lemma startAt_zero_iff {bytes : Bytes} :
    StartAt bytes 0 ↔ ∃ rest, bytes = 0 :: 0 :: 1 :: rest := by
  simp only [StartAt, List.drop_zero, List.IsPrefix, List.cons_append, List.nil_append, eq_comm]

lemma findStart_cons (a : UInt8) (rest : Bytes) [Decidable (StartAt (a :: rest) 0)] :
    findStart (a :: rest)
      = if StartAt (a :: rest) 0 then some 0 else (findStart rest).map (· + 1) := by
  split
  · rename_i h
    obtain ⟨tail, hs⟩ := startAt_zero_iff.1 h
    rw [hs]
    rfl
  · rename_i h
    rw [findStart]
    rintro tail rfl rfl
    exact h (startAt_zero_iff.2 ⟨_, rfl⟩)

/-- The first start code is the one that is found. -/
lemma findStart_eq_some_iff {bytes : Bytes} {n : Nat} :
    findStart bytes = some n ↔ StartAt bytes n ∧ ∀ m < n, ¬ StartAt bytes m := by
  classical
  induction bytes generalizing n with
  | nil =>
    refine ⟨fun h => by simp [findStart] at h, fun h => ?_⟩
    have := h.1.le_length
    simp at this
  | cons a rest ih =>
    rw [findStart_cons]
    by_cases h0 : StartAt (a :: rest) 0
    · rw [if_pos h0]
      constructor
      · intro h
        obtain rfl := Option.some.inj h
        exact ⟨h0, fun m hm => absurd hm (Nat.not_lt_zero m)⟩
      · rintro ⟨-, hfirst⟩
        cases n with
        | zero => rfl
        | succ n => exact absurd h0 (hfirst 0 (Nat.succ_pos n))
    · rw [if_neg h0]
      cases n with
      | zero => simp [h0]
      | succ n =>
        simp only [Option.map_eq_some_iff, Nat.add_right_cancel_iff, exists_eq_right, ih,
          startAt_cons_succ]
        refine and_congr_right fun _ => ⟨fun h m hm => ?_, fun h m hm => ?_⟩
        · cases m with
          | zero => exact h0
          | succ m => exact h m (Nat.lt_of_succ_lt_succ hm)
        · exact h (m + 1) (Nat.succ_lt_succ hm)

lemma findStart_eq_none_iff {bytes : Bytes} :
    findStart bytes = none ↔ ∀ n, ¬ StartAt bytes n := by
  classical
  constructor
  · intro h n hn
    -- the least position of a start code would have been found
    obtain ⟨m, hm, hfirst⟩ : ∃ m, StartAt bytes m ∧ ∀ k < m, ¬ StartAt bytes k :=
      ⟨Nat.find ⟨n, hn⟩, Nat.find_spec ⟨n, hn⟩, fun k hk => Nat.find_min ⟨n, hn⟩ hk⟩
    rw [findStart_eq_some_iff.2 ⟨hm, hfirst⟩] at h
    exact absurd h (by simp)
  · intro h
    cases hf : findStart bytes with
    | none => rfl
    | some n => exact absurd (findStart_eq_some_iff.1 hf).1 (h n)

/-! ### The gap before the first start code -/

/-- The number of bytes that can be skipped: those in front of the first start code, and, as
long as there is none, all but the last three, which may begin one. -/
def gap (bytes : Bytes) : Nat := (findStart bytes).getD (bytes.length - 3)

lemma le_gap_iff {bytes : Bytes} {k : Nat} :
    k ≤ gap bytes ↔ k ≤ bytes.length - 3 ∧ ∀ m < k, ¬ StartAt bytes m := by
  cases hf : findStart bytes with
  | none =>
    have hnone := findStart_eq_none_iff.1 hf
    simp [gap, hf, hnone]
  | some n =>
    obtain ⟨hn, hfirst⟩ := findStart_eq_some_iff.1 hf
    have hlen := hn.le_length
    simp only [gap, hf, Option.getD_some]
    constructor
    · intro hk
      exact ⟨by omega, fun m hm => hfirst m (by omega)⟩
    · rintro ⟨-, hk⟩
      by_contra hlt
      exact hk n (by omega) hn

lemma gap_le_length (bytes : Bytes) : gap bytes ≤ bytes.length := by
  have := (le_gap_iff.1 (Nat.le_refl (gap bytes))).1
  omega

lemma gap_eq_zero_of_startAt {bytes : Bytes} (h : StartAt bytes 0) : gap bytes = 0 := by
  by_contra hne
  have := (le_gap_iff.1 (Nat.le_refl (gap bytes))).2 0 (by omega)
  exact this h

/-- What is left of the gap when its first `k` bytes are gone. -/
lemma gap_drop {bytes : Bytes} {k : Nat} (h : k ≤ gap bytes) :
    gap (bytes.drop k) = gap bytes - k := by
  have hk := le_gap_iff.1 h
  refine eq_of_forall_le_iff fun j => ?_
  rw [Nat.le_sub_iff_add_le' h, le_gap_iff, le_gap_iff, List.length_drop]
  simp only [startAt_drop]
  constructor
  · rintro ⟨hlen, hnone⟩
    refine ⟨by omega, fun m hm => ?_⟩
    by_cases hmk : m < k
    · exact hk.2 m hmk
    · have := hnone (m - k) (by omega)
      rwa [show k + (m - k) = m by omega] at this
  · rintro ⟨hlen, hnone⟩
    exact ⟨by omega, fun m hm => hnone (k + m) (by omega)⟩

/-- Bytes added behind the gap do not shorten it. -/
lemma gap_le_gap_append (bytes more : Bytes) : gap bytes ≤ gap (bytes ++ more) := by
  have h := le_gap_iff.1 (Nat.le_refl (gap bytes))
  refine le_gap_iff.2 ⟨?_, fun m hm => ?_⟩
  · rw [List.length_append]
    omega
  · rw [startAt_append_iff more (by omega)]
    exact h.2 m hm

/-! ### The portion at the front -/

lemma portion_of_length_lt {bytes : Bytes} (h : bytes.length < 4) :
    portion bytes = .incomplete := by
  match bytes, h with
  | [], _ | [_], _ | [_, _], _ | [_, _, _], _ => rfl

lemma portion_startCode (id : UInt8) (rest : Bytes) :
    portion (0 :: 0 :: 1 :: id :: rest) = unitPortion id rest := rfl

/-- Without a start code at the front the portion is the gap. -/
lemma portion_of_not_startAt {bytes : Bytes} (h4 : 4 ≤ bytes.length) (h : ¬ StartAt bytes 0) :
    portion bytes = .garbage (gap bytes) := by
  classical
  match bytes, h4 with
  | a :: b :: c :: id :: rest, _ =>
    have hne : ¬ (a = 0 ∧ b = 0 ∧ c = 1) := by
      rintro ⟨rfl, rfl, rfl⟩
      exact h (startAt_zero_iff.2 ⟨_, rfl⟩)
    rw [gap, findStart_cons, if_neg h]
    simp only [portion, if_neg hne]
    cases findStart (b :: c :: id :: rest) <;> rfl

/-- Enough bytes stay enough. -/
lemma holds_append {n : Nat} {bytes : Bytes} (more : Bytes) (h : Bytes.holds n bytes = true) :
    Bytes.holds n (bytes ++ more) = true := by
  rw [Bytes.holds_iff] at h ⊢
  rw [List.length_append]
  omega

/-- A unit that was recognised stays as it is when bytes are added behind it. -/
lemma unitPortion_append {id : UInt8} {rest : Bytes} (more : Bytes)
    (h : unitPortion id rest ≠ .incomplete) :
    unitPortion id (rest ++ more) = unitPortion id rest := by
  revert h
  fun_cases unitPortion id rest with
  | case1 _ hEnd => simp [unitPortion, hEnd]
  | case3 _ hEnd hPack last stuffing hlast n hn =>
    -- the byte with the stuffing's length is there already
    intro _
    have hlen : 9 ≤ rest.length := by
      by_contra hlt
      rw [List.drop_eq_nil_of_le (by omega)] at hlast
      exact absurd hlast (by simp)
    have hdrop : (rest ++ more).drop 9 = last :: (stuffing ++ more) := by
      rw [List.drop_append_of_le_length hlen, hlast, List.cons_append]
    simp only [unitPortion, if_neg hEnd, if_pos hPack, hdrop]
    exact if_pos (holds_append more hn)
  | case5 hEnd hPack hVideo high low a b optional tail n header hlt hn
  | case6 hEnd hPack hVideo high low a b optional tail n header hlt hn =>
    intro _
    have hn' := holds_append more hn
    simp only [List.cons_append] at hn' ⊢
    simp only [unitPortion, if_neg hEnd, if_neg hPack, if_pos hVideo]
    rw [if_pos hn, if_pos hn']
  | case9 hEnd hPack hVideo hSystem high low tail n hMap hn
  | case10 hEnd hPack hVideo hSystem high low tail n hMap hn =>
    intro _
    have hn' := holds_append more hn
    simp only [List.cons_append] at hn' ⊢
    simp only [unitPortion, if_neg hEnd, if_neg hPack, if_neg hVideo, if_pos hSystem]
    rw [if_pos hn, if_pos hn']
  | case13 _ hEnd hPack hVideo hSystem =>
    simp [unitPortion, hEnd, hPack, hVideo, hSystem]
  | case2 | case4 | case8 | case12 => exact fun h => absurd rfl h
  | case7 _ _ _ _ _ _ _ _ _ _ _ hn | case11 _ _ _ _ _ _ _ _ hn =>
    exact fun h => absurd (if_neg hn) h

/-- What begins with a start code and was recognised stays as it is when bytes are added. -/
lemma portion_append {bytes : Bytes} (more : Bytes) (hs : StartAt bytes 0)
    (h : portion bytes ≠ .incomplete) : portion (bytes ++ more) = portion bytes := by
  obtain ⟨rest, rfl⟩ := startAt_zero_iff.1 hs
  cases rest with
  | nil => exact absurd rfl h
  | cons id rest => exact unitPortion_append more h

end SipStills.ProgramStream
