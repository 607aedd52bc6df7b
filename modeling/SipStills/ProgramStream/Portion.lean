/-
# What stands at the front of a program stream

A program stream is a sequence of units, each with a start code `00 00 01 c`.  `portion`
looks at the front of the bytes that have not been taken yet and says what stands there: a
whole unit of some kind, bytes to skip until the next start code, or too little to tell.

Main statements: `portion_size_pos` and `portion_size_le` (each portion takes at least one
byte and no more than there are).
-/
import SipStills.Bytes

namespace SipStills.ProgramStream

/-- What stands at the front of the bytes that have not been taken yet. -/
inductive Portion where
  /-- Too little to tell, or a unit whose end has not arrived. -/
  | incomplete
  /-- `n` bytes that belong to no unit. -/
  | garbage (n : Nat)
  /-- A unit of `n` bytes that carries neither video nor the stream map. -/
  | other (n : Nat)
  /-- A pack header of `n` bytes. -/
  | pack (n : Nat)
  /-- The end code. -/
  | endCode
  /-- A stream map of `n` bytes. -/
  | map (n : Nat)
  /-- A video packet of `n` bytes, the first `header` of them before its payload. -/
  | video (n header : Nat)
deriving DecidableEq

namespace Portion

/-- The number of bytes that a portion takes. -/
def size : Portion → Nat
  | incomplete => 0
  | garbage n => n
  | other n => n
  | pack n => n
  | endCode => 4
  | map n => n
  | video n _ => n

end Portion

/-- The number of bytes in front of the first `00 00 01`, if there is one. -/
def findStart : Bytes → Option Nat
  | [] => none
  | a :: rest =>
    match a, rest with
    | 0, 0 :: 1 :: _ => some 0
    | _, _ => (findStart rest).map (· + 1)

/-- The code of the end of the program. -/
def endCodeId : UInt8 := 0xB9

/-- The code of a pack header. -/
def packId : UInt8 := 0xBA

/-- The code of a system header. -/
def systemId : UInt8 := 0xBB

/-- The code of a stream map. -/
def mapId : UInt8 := 0xBC

/-- The codes of video packets. -/
def isVideoId (id : UInt8) : Bool := decide (0xE0 ≤ id) && decide (id ≤ 0xEF)

/-- The length of a pack header without stuffing. -/
def packLength : Nat := 14

/-- The length of a video packet's header without optional fields. -/
def videoHeaderLength : Nat := 9

/-- What stands at the front, given a start code with the code `id` and the bytes behind
it.  The last byte of a pack header gives its stuffing in three bits; all other units give
their length in the two bytes behind the start code; a video packet gives the length of its
optional fields in the ninth byte. -/
def unitPortion (id : UInt8) (rest : Bytes) : Portion :=
  if id = endCodeId then .endCode
  else if id = packId then
    match rest.drop 9 with
    | [] => .incomplete
    | last :: _ =>
      let n := packLength + last.toNat % 8
      if Bytes.holds (n - 4) rest then .pack n else .incomplete
  else if isVideoId id then
    match rest with
    | high :: low :: _ :: _ :: optional :: _ =>
      let n := 6 + Bytes.word high low
      let header := videoHeaderLength + optional.toNat
      if Bytes.holds (n - 4) rest then
        if n < header then .other n else .video n header
      else .incomplete
    | _ => .incomplete
  else if systemId ≤ id then
    match rest with
    | high :: low :: _ =>
      let n := 6 + Bytes.word high low
      if Bytes.holds (n - 4) rest then
        if id = mapId then .map n else .other n
      else .incomplete
    | _ => .incomplete
  else .garbage 1

/-- What stands at the front of `bytes`.  Without a start code at the front, all bytes up to
the next one are garbage; without any, all but the last three are, since these may begin
one. -/
def portion (bytes : Bytes) : Portion :=
  match bytes with
  | a :: b :: c :: id :: rest =>
    if a = 0 ∧ b = 0 ∧ c = 1 then unitPortion id rest
    else
      match findStart (b :: c :: id :: rest) with
      | some n => .garbage (n + 1)
      | none => .garbage (rest.length + 1)
  | _ => .incomplete

theorem findStart_lt {bytes : Bytes} {n : Nat} (h : findStart bytes = some n) :
    n + 3 ≤ bytes.length := by
  induction bytes generalizing n with
  | nil => simp [findStart] at h
  | cons a rest ih =>
    unfold findStart at h
    split at h
    · simp only [Option.some.injEq] at h
      subst h
      simp
    · obtain ⟨m, hm, rfl⟩ := Option.map_eq_some_iff.1 h
      have := ih hm
      simp only [List.length_cons]
      omega

theorem unitPortion_size_le (id : UInt8) (rest : Bytes) :
    (unitPortion id rest).size ≤ rest.length + 4 := by
  unfold unitPortion
  split
  · simp only [Portion.size]; omega
  split
  · split
    · simp [Portion.size]
    · dsimp only
      split
      · rename_i h
        rw [Bytes.holds_iff] at h
        simp only [Portion.size]; omega
      · simp [Portion.size]
  split
  · split
    · dsimp only
      split
      · rename_i h
        rw [Bytes.holds_iff] at h
        split <;> simp only [Portion.size] <;> omega
      · simp [Portion.size]
    · simp [Portion.size]
  split
  · split
    · dsimp only
      split
      · rename_i h
        rw [Bytes.holds_iff] at h
        split <;> simp only [Portion.size] <;> omega
      · simp [Portion.size]
    · simp [Portion.size]
  · simp only [Portion.size]; omega

theorem unitPortion_size_pos {id : UInt8} {rest : Bytes}
    (h : unitPortion id rest ≠ .incomplete) : 0 < (unitPortion id rest).size := by
  revert h
  unfold unitPortion
  split
  · simp [Portion.size]
  split
  · split
    · simp
    · dsimp only
      split
      · simp only [Portion.size, packLength]; omega
      · simp
  split
  · split
    · dsimp only
      split
      · split <;> simp only [Portion.size] <;> omega
      · simp
    · simp
  split
  · split
    · dsimp only
      split
      · split <;> simp only [Portion.size] <;> omega
      · simp
    · simp
  · simp [Portion.size]

/-- A portion takes no more bytes than there are. -/
theorem portion_size_le (bytes : Bytes) : (portion bytes).size ≤ bytes.length := by
  unfold portion
  split
  · rename_i a b c id rest
    split
    · simpa using unitPortion_size_le id rest
    · split
      · rename_i n hn
        have := findStart_lt hn
        simp only [Portion.size, List.length_cons] at *
        omega
      · simp only [Portion.size, List.length_cons]; omega
  · simp [Portion.size]

/-- A portion takes at least one byte, unless there is too little to tell. -/
theorem portion_size_pos {bytes : Bytes} (h : portion bytes ≠ .incomplete) :
    0 < (portion bytes).size := by
  revert h
  unfold portion
  split
  · split
    · exact unitPortion_size_pos
    · split <;> simp [Portion.size]
  · simp

end SipStills.ProgramStream
