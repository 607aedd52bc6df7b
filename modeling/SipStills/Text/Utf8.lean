/-
# UTF-8, strictly and leniently

A byte string is read one scalar value at a time.  The lead byte fixes the range of the
next byte and the number of continuation bytes; the first byte that does not fit ends the
attempt, and what was read so far is one *maximal invalid part*.  Strict reading refuses
such a part, lenient reading puts one replacement character in its place.

Main statement: `length_step_le`, by which both readers end.
-/
import SipStills.Bytes

namespace SipStills.Text.Utf8

/-- The mark that stands for an unreadable part. -/
def replacement : Char := '\uFFFD'

/-- Reads `n` more bytes of a sequence whose bits so far are `value`.  The next byte has to
lie between `low` and `high`, the ones after it between `0x80` and `0xBF`.  A byte that does
not fit is left in place. -/
def follow (value : Nat) (low high : UInt8) : Nat → Bytes → Option Char × Bytes
  | 0, bs => (some (Char.ofNat value), bs)
  | _ + 1, [] => (none, [])
  | n + 1, b :: bs =>
    if low ≤ b ∧ b ≤ high then follow (value * 64 + (b.toNat - 0x80)) 0x80 0xBF n bs
    else (none, b :: bs)

/-- Reads one scalar value that begins with the byte `b`: the character, or nothing for a
maximal invalid part, and the bytes behind it.  Overlong forms, surrogates and values above
`0x10FFFF` are excluded by the range of the second byte. -/
def step (b : UInt8) (bs : Bytes) : Option Char × Bytes :=
  if b < 0x80 then (some (Char.ofNat b.toNat), bs)
  else if b < 0xC2 then (none, bs)
  else if b < 0xE0 then follow (b.toNat - 0xC0) 0x80 0xBF 1 bs
  else if b = 0xE0 then follow 0 0xA0 0xBF 2 bs
  else if b = 0xED then follow 0xD 0x80 0x9F 2 bs
  else if b < 0xF0 then follow (b.toNat - 0xE0) 0x80 0xBF 2 bs
  else if b = 0xF0 then follow 0 0x90 0xBF 3 bs
  else if b < 0xF4 then follow (b.toNat - 0xF0) 0x80 0xBF 3 bs
  else if b = 0xF4 then follow 4 0x80 0x8F 3 bs
  else (none, bs)

theorem length_follow_le (value : Nat) (low high : UInt8) (n : Nat) (bs : Bytes) :
    (follow value low high n bs).2.length ≤ bs.length := by
  induction n generalizing value low high bs with
  | zero => simp [follow]
  | succ n ih =>
    cases bs with
    | nil => simp [follow]
    | cons b bs =>
      simp only [follow]
      split
      · exact Nat.le_trans (ih _ _ _ _) (by simp)
      · simp

/-- What one reading step leaves is never longer than what it was given. -/
theorem length_step_le (b : UInt8) (bs : Bytes) : (step b bs).2.length ≤ bs.length := by
  unfold step
  split <;> try simp
  repeat' split
  all_goals first | exact length_follow_le _ _ _ _ _ | simp

/-- Reads a byte string, with one replacement character for each maximal invalid part. -/
def lenient : Bytes → List Char
  | [] => []
  | b :: bs => (step b bs).1.getD replacement :: lenient (step b bs).2
termination_by bs => bs.length
decreasing_by have := length_step_le b bs; simp only [List.length_cons]; omega

/-- Reads a byte string that has to be valid throughout. -/
def strict? : Bytes → Option (List Char)
  | [] => some []
  | b :: bs =>
    match (step b bs).1 with
    | none => none
    | some c => (strict? (step b bs).2).map (c :: ·)
termination_by bs => bs.length
decreasing_by have := length_step_le b bs; simp only [List.length_cons]; omega

/-- The bytes of a text. -/
def encode (text : List Char) : Bytes := text.flatMap String.utf8EncodeChar

end SipStills.Text.Utf8
